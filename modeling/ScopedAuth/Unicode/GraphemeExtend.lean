import ScopedAuth.Unicode.RangeTable

/-!
# Grapheme extenders

The characters of property `Grapheme_Extend`.  They merge with what stands before them, so a
quoted text shows them by number.
-/

namespace ScopedAuth.Unicode

/-- The code points of property `Grapheme_Extend`. -/
def graphemeExtendTable : RangeTable Unit := RangeTable.ofPackedSet
  ["u0ZFeJ6e7XC10111110Y8AXGKG0Z56252113X30UQYRAXQ890O3181214XB2XR8XAN1VXN010474036A1T0XQ0102380",
   "90A1Q021XP041412230U130B1XP0441140K1M510XQ011138072A1U0XR010C090X8030XN012521371B1T0XQ021103",
   "21371B1S1XP110238090A1T0Y8040221080YH026C7Z2028B6Y91R01010XND14115A1X390Z63151121P142G3D0216",
   "0F0rV2zI3S2T1U1Y0116802A90XD210ZL1X20ZM2419062cR120XQ0161010276920XGXD2BK3XG942X68C1X0325XO0",
   "113014XO721aO21C16406031c6XVmC0c3X0Y_U2aD0Z0VnA5Z91zkK319X01YG1eG03040P150aN1QHD0X67PA10XC2X",
   "G0232120X40Y352121C080XF0XJ012215110XA180dE02040pvG0t1FGFhE1oT0d20aL4Xq621153X8240b51nT3Y14f",
   "T1YD5Y6AXH3ZR0XMEX9021A2XH32170XT2X4417XU0C1XK8108320YV2236020aT037L1XP11010C090E634Y3025102",
   "0124210E1YL72210N0YH02510201111dB0236111R1YL72011ZA01027Z50102314e3811dL0A340aG32140X09X8523",
   "809522XEC11c601210c961510YIL261111ZQ530111610Y813010gR1B1XK452N0bd506Ehc8B32Yk04XR6XWO0XV3YH",
   "0B1pbB1ap1XD2MmU4358726U3aK2XzRXM4XH80E0M41EXgG61G261114Z40b06hN0XT3lS3dU1dJ0207150kQ6ZD6ubs",
   "LYVa0dF"]

/-- Whether a character is in `graphemeExtendTable`. -/
def extendsGrapheme (c : Char) : Bool :=
  graphemeExtendTable.contains c.toNat

end ScopedAuth.Unicode
