import ScopedAuth.Unicode.RangeTable

/-!
# Combining marks

The characters of general category `M`: marks that are written onto the character before them.
A host label may not begin with one.
-/

namespace ScopedAuth.Unicode

/-- The code points of general category `Mn`, `Mc` or `Me`. -/
def markTable : RangeTable Unit := RangeTable.ofPackedSet
  ["u0ZFeJ6e7XC10111110Y8AXGKG0Z56252113X30UQYRAXQ890O3181214XB2XR8XAN1X0XM21H16A1T2XO016212290A",
   "1Q022XO014412230U130B2XO0171212K1M512XO016212272A1U0XR4321390X84XN016121371B1T2XO016121371B1",
   "F0C3XN116121390A1T2Y60451017I1XT026C7Z2028B6Y91R0101041XHJ115A1X390Z4JN342122633DB10A3rV2zI3",
   "S2T1U1Y0V90XD210ZL1X20ZMB4BcR4XP91S20XGXD2BK4XFGX68C2UCXODXGJaO21K406022c6XVsGX0Y_U2aD0Z0VnA",
   "5Z91zkK319X01YG1eG03040N440YJ1XIHQHD0X67PCXC3XFDX40Y3DC081XD2XI012215110X9451dC711pvG0t1FGF-",
   "D0d20aL4Xq621153X8240b51nT3Y14fT1YD5Y6AXH3ZQ2XLEX9021A3XDA70XT2X4DG1XC0C2XGD8311YSB6020aTBL3",
   "XN116212290A12634Y381020131410E1YIHN0YHJdB628R1YIGZACZ5Ee0EdL511231011aD62630S9X8613809AXEFc",
   "67c7717YIL1DZQ530111610Y241114gR39110XG634N0bd506Ehc8HYk04XR6XWO01XM73YH0B1pbB1ap1XD2MmU4358",
   "726U3aK2XzRXM4XH80E0M41EXgG61G261114Z40b06hN0XT3lS3dU1dJ0207150kQ6ZD6ubzLdF"]

/-- Whether a character is in `markTable`. -/
def isMark (c : Char) : Bool :=
  markTable.contains c.toNat

end ScopedAuth.Unicode
