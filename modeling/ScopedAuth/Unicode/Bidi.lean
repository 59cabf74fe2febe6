import ScopedAuth.Unicode.RangeTable

/-!
# Bidirectional classes

The property `Bidi_Class`, as far as the rule for host labels tells classes apart: the separators
and the embedding controls, which no host label may hold, share the class `other`.
-/

namespace ScopedAuth.Unicode

/-- The direction in which a character is written, and how weakly. -/
inductive BidiClass where
  | l | r | al | en | es | et | cs | an | on | bn | nsm | other
  deriving DecidableEq

/-- The class that a number of the packed table stands for. -/
def BidiClass.ofCode : Nat → BidiClass
  | 0 => .l
  | 1 => .r
  | 2 => .al
  | 3 => .en
  | 4 => .es
  | 5 => .et
  | 6 => .cs
  | 7 => .an
  | 8 => .on
  | 9 => .bn
  | 10 => .nsm
  | _ => .other

/-- The code points whose class is not `l`, each run with the number of its class. -/
def bidiTable : RangeTable Nat := RangeTable.ofPackedMap
  ["08904B0D904B018025048004006004016093006058Q58Q3805900B0P900600803503811800901801501300812800",
   "3148N08V08k1187D82D85881G80ZFA418808518108ZE08aC6Ae0082180050010XCA00100A00101A00101A00100A0",
   "XN10570180020150020060020180AA0XF20KA09700501702200A0Z4206A00700805A01201A00803A0120930M200A",
   "0T20QA0YQ20AA0E20XA108A01103802100A0N103A00108A00102A00104A0XA102A0310XF201704208A0X920NA007",
   "0VAXN0A10A47A40A36AA1AT0AXQ0A43A80AK1AE1570520A21AXP0A41A41A22A30AU1A30AB1AXP0A44A11A40AK1AD",
   "0585A10AXQ0A20A13A80A71AB1AU0AXT0AC0AX55800500850A30AXN0A12A52A13A71AB1AK6820AXQ0AF1AK1AS1AX",
   "P1A43A80AK1AT0AY80A72A10AYQ0A26A40577AZ20A28AB6AY91AR0A10A10A038XJDA14A11A5AA1X3A90AZ63A15A1",
   "1A21AP1A42AG3AD0A21A60AF0ArV2AXG98Z608pV0BQ18ZL2AT1AU1AU1AY01A16A80A2AA70510AI986A802A00900A",
   "ZL1AX20AZM2A41A90A62A408318aOX18N1A20AXQ0A16A10A10A27A69A20AXGXDA2BAK3AXG0A14A10A50AB18R8AB0",
   "801AX03A21A12AXO0A11A30A12AXQ7A21AaO2A1CA16A40A60A31Ac6XVAjT08128B28D28D28D181AB0291010N806B",
   "0060450E80060P800B05903B059003353014028193014028HXF50X0AF18138118A08128558108108108405B18448",
   "5382F8X9284a180040050f18Y5P81aJ8MA8LX780J3YEk181gI8e0pJ82a98d55842A768ZV0AZ0VA0YT8X2P81YO8Cc",
   "L8QF800B0383O893A208518528YP1A018308YQ08c4X58908XD18XHF8S28XIE8C38b738Z318V08ck0XV8rqGXM8g62",
   "8YV3A00809A018U1AYG1AEX18Z608ZP0A30A40AP1A13800AB15XQ38YC1AQHAD0AX67APAAXE2AXG0A23A21AX70AY3",
   "5A21A21AC0A80AXF0AXJ0A12A21A51A10AXA1A80AZJ18ZP0A20A40ApvF0100A0910040X510lD20H80ZU20080V90C",
   "20280FA0986FA0V80060080061080060880050180140281080150084aE2009118025048004006004016093006058",
   "Q58QA8ZQ15028015168189048019e108XUYC83C8308YS0Ad20A0Q3ZQ4AXa5eU10080d0102A00101A04103A0X7102",
   "A03100A0b4101A0YH10680jV10X3203A0720970520930U104A0080dG10U70XB101A0I10XP205A0XF10L20AA0U20H",
   "103A0ZP110AXMEABJ8A0A21AA2AXH3A21A70AXT2AX44A17AXU0AC1AXK8AA3A20AYV2A20A11A60A20AaT0A37AL1AX",
   "P1A30AX56A34AY65AD0A10A10A11811881AYL7A22A10AN0AYK5A10A41A11AdE3A61A11AR1AYL7A20A11AVC8XU0A1",
   "0A25A10AZ52A23A14Ae38A11Ae01A10A40AaG3A21A40AX05A21AX85A23A80A95A22AXECA11Ac60A12A10AZQ08YE6",
   "A15AYKLA26A11A11AZQ5A30A11A16A10AY81A30A10AgR1AB1AXK4A50A10AN0AZQ780350G8bYE0A6EAhc8BA32AYk0",
   "4AXR6AnM28kV0AXV3AYF0810ApbO1A139ZwSdF8A283jJ86M8FG8FXDA2MAn02A97907A26AU3AXR18LY1802A008bQY",
   "M8y408XP08XP08XP08XP08AXH3m0XMA4XHA80AE0AM4A1EAXgG6A1GA26A11A14AZ40Ab06AhN0AXT3AF05lC3AdU1AF",
   "08d30A20A71A50AeAcF106A0ZC106A0v410YF20XV10YF20bF10dF20180D20dV10XB84Z38CE82E81E81X48AA3048V",
   "08XQ58XT08bI58aQ-O83G83C83cP86B8408FB84XN88986X788T82B8418E88X7gN88D82C83A83XO81084F82B84987",
   "aI81YR8093008XW319X__U19X__U19X__U19X__U19X__U19X__U19X__U19X__U19X__U19X__U19X__U19X__Ue190",
   "dFA0ZmF9Xx_U19X__U19X__U19"]

/-- The bidirectional class of a character. -/
def bidiClass (c : Char) : BidiClass :=
  match bidiTable.find? c.toNat with
  | some code => BidiClass.ofCode code
  | none => .l

end ScopedAuth.Unicode
