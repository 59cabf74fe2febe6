import ScopedAuth.Unicode.RangeTable

/-!
# Characters without a glyph

Controls, format characters, private use, unassigned code points and every separator but the
space.  A quoted text shows them by number.
-/

namespace ScopedAuth.Unicode

/-- The code points of general category `C` or `Z`, the space excepted. -/
def unprintableTable : RangeTable Unit := RangeTable.ofPackedSet
  ["0VYVX1C0sA1637010K0iD0X61XI130XN7R36GM0c00XG1XR1Z5DXR1XH1F0S110B4X06YB0b108121M0701241912147",
   "132051P1306321M07020202110532132164016H9309030M0702051A030311E41C670308121M07020519121363320",
   "51I9206230422010222232C3523041151DL4D030N0G190304620302141A6M030N0A051903046243041A03BD030XJ",
   "03063G1Q030I2O090117213601085A13BXQ3TX4201050O010N1501070A14VY80X43X70X40F0DX4c601411hP04170",
   "1041X9041X1041701041F0XP041Y31X02Q5YM161q00S2YP6M8O8KBD0302BYU1A5A5E0B5YP6XB4Y69V0C3C312XA15",
   "AXC3Q5B2XU1Y10T1B5A5E1XE1CJYD0b67XS2F2XU4XB1B7XB4mM161X616180101010V1XL0F0E160J1309GO7XFG21R",
   "0D2X2DX1EaC3qQLBKXuK1hU4XD01411XO62DO87070707070707070ZUX1Q0YPBcMPG0XV0YM1Z74XB0YU0YM8XG0ypD",
   "2XN8gSJbO7cTJXS2A5XO7Y67C5ZKAU2YE0B3X10XN8E1A1Z7NS96161687070XS3ZU1A5gz4BN3XH3YW0cdVhE1ZAX57",
   "B54Q050102020qAVXA5XJ0J04350a73bU261616132707C21C0Q0J020F1EX1ZR433XD2YO0D21XEXEa1T2XHES3X48U",
   "4XB4U0X53EX9aU1A5X43X43X87XKAC0F07020B0F07022XKBfN8M98N60XA09Y46110XC02211N0Y879XFJ024X12R4R",
   "X5XO3K1XI0248030T133A696Y0VX73C8XM2T1R4Q64B7YFY9XMXJCXJ6XE7A5X62T72cFV0XA0312F679X0XE7XALQX5",
   "SJN8YE3X48XU05CP6A5XL0I7X78Z00KAI0XFXT701040F0B5XR4A5408121M0702050A12131151471725AA01110X60",
   "A0111040A0272SYS05TY87Ab5XM1X6X1Y5AA5DIXQ5A5KRR1F3NbOXSZ3YJB81118020U021C8AY581XE1BQY87YJCY9",
   "6AYL8YNX2DA590XD0E9T2X01M0EY87020XC2102097A56020X502066A5XC3AdLP6H0X92TYK1EXICyRZ5ZF05Ac4YoB",
   "Z3CXXGFM9ZyR4o7crOXQXs5nP6V0A3YH0A5U169Y69A070L4JjFXQc5YR4P1PXBYB3XP6HXV5A78dcMX8X0Z0ZJelS40",
   "7020f3E1S311D47iCYe3ZB4D296A14ZwVdT2jK5NEHEXE1N8ZKXRdM9X71YA7ZGKY6ZPKBKBYN8Pa6YL0Y7021112140",
   "C01070Y10418070S040501270gK1f41rUE50FXYFV56cK70H1702054XUX01ZFXD2E1A32fVVGXQ41kFXAcLXB31bVV0",
   "M72cV704020F0c51GX8YC3A32uGY4YBXTc140R0201110A040101513101010302011101010101020114070404010A",
   "0H43050HXJ2eDXC3Z4BF1F0F0X59bEXNTCXC3962D6aP-P2H2D2cQ5C31EC3XO7A5X87U1C32D9X6gO7E1D2B2XP013G",
   "1C3A6aJ0Z7XW4Xft0VaeU1bqE1dfHEpEYj1mUXl1awB4efArpa5dGb_mF"]

/-- Whether a character is in `unprintableTable`. -/
def isUnprintable (c : Char) : Bool :=
  unprintableTable.contains c.toNat

end ScopedAuth.Unicode
