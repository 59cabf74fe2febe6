import ScopedAuth.Unicode.RangeTable

/-!
# Joining types

The property `Joining_Type`: on which sides a letter of a cursive script joins its neighbours.
-/

namespace ScopedAuth.Unicode

/-- The sides on which a character joins: none, both, its left or its right; `transparent`
characters are passed over, and `causing` ones join without a shape of their own. -/
inductive JoiningType where
  | none | transparent | dual | left | right | causing
  deriving DecidableEq

/-- The type that a number of the packed table stands for. -/
def JoiningType.ofCode : Nat → JoiningType
  | 0 => .transparent
  | 1 => .dual
  | 2 => .left
  | 3 => .right
  | _ => .causing

/-- The code points that join or are passed over, each run with the number of its type. -/
def joiningTable : RangeTable Nat := RangeTable.ofPackedMap
  ["bD00oIZF0eJ60e7XC0100110110100Y8A01003011330010030010030410330C10040610030110K0E110000231230",
   "F10H30X51003011083001003001003011013103060250210130013A21201F0000300002104303100308100300100",
   "30010030110030Q02030A10230E1013031003001013021013051X6A0PX01080604200O30180120140I0304101300",
   "10030910030010230204011311030010135I30240012410030017800910231030110130510030E11N01V0XN00100",
   "470400360A10T00XQ00430800K10Q00210XP00410410220300U10300B10XP00440110400K10M50100XQ002001308",
   "00710B10U00XT00C00XI00300XN00120520130710B10T00XQ00200600510K10S10XP10430800K10T00Y800720100",
   "YQ00260C70Z200280B60Y910R00100100XND01401105A01X30900Z630150110210P10420G30D00210600F00rV20z",
   "I20T10U10U10Y0101608002A0900X901204020100GYO1C100X11000001ZL20410900620cR10200XQ001601001002",
   "70690200XGXD02B0K30XG00140100500X880C10X030210120XO00110300120XQ70210aO201C0160400600310c6XV",
   "0mB00104010Q40XH40550Z0X00Y_U20aD00Z0V0nA30ZB10zkK30190X010YG10eG00300400P10500JXH1002YH10QH",
   "0D00X670PA0XE20XG00230210X700Y350210210C00800XF00XJ00120210510100XA10800dE00200400pvG00t1F0G",
   "F0cF00dP20m100d200aL40Xq620110530X820400a041003103113202043031002041003021003203010431003aG0",
   "1003001023021003011003001013001003N33011gH020X01003001030Y140fT10L03011111XI50XG210030G11A00",
   "21003R310130B1030XA01111023101013011003011101013001403001002XL00XME0X900210A20XH30210700XT20",
   "X440170XU00C10XK80A30200YV20200110600200aT00370L10XP10300X560340Y650D00100100E10YL70220100N0",
   "0YK50100410110dE30610110R10YL70200110ZA00100250100Z500100230140e380110e010100400aG30210400X0",
   "90X850230800950220XEC0110c600120100c960150100YIL0260110110ZQ50300110160100Y810300100gR10B10X",
   "K40500100N00bcLG06E0hc8B0320Yk040XR60XWO00XV30YH00pbO10130aoSXD02M0n0209F0260U30aK20XzRXM04X",
   "H0800E00M401E0XgG601G0260110140Z400b060hN00XT30lS30dU10dJ00200710500kQ60X9Y31070ubrL00UYV0a0",
   "dF0"]

/-- The joining type of a character. -/
def joiningType (c : Char) : JoiningType :=
  match joiningTable.find? c.toNat with
  | some code => JoiningType.ofCode code
  | none => .none

end ScopedAuth.Unicode
