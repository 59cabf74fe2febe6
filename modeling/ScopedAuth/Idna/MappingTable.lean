import ScopedAuth.Unicode.RangeTable

/-!
# Mapping of host characters

The mapping of the compatibility processing of internationalised domain names, without transitional
processing: what each character of a host name becomes before the name is normalised and cut into
labels.
-/

namespace ScopedAuth.Idna

open ScopedAuth.Unicode

/-- What becomes of a character of a host name. -/
inductive Rule where
  /-- The character stays. -/
  | valid
  /-- The character is dropped. -/
  | ignored
  /-- The character may not occur. -/
  | disallowed
  /-- Other characters stand for it. -/
  | mapped (replacement : List Nat)
  deriving DecidableEq

/-- A rule for a run of code points: `shifted` maps each to the one at a distance, `alternating`
does so for every second one and leaves those between. -/
inductive RunRule where
  | ignored
  | disallowed
  | shifted (distance : Nat)
  | alternating (distance : Nat)
  | replaced (codes : List Nat)
  deriving DecidableEq

/-- Reads the rows of the mapping table: gap, length, the number of the rule and what it takes. -/
def RunRule.readRows (fuel : Nat) (next : Nat) : List Nat → List (RangeTable.Row RunRule)
  | gap :: len :: kind :: rest =>
    match fuel with
    | 0 => []
    | fuel + 1 =>
      let first := next + gap
      let last := first + len
      match kind, rest with
      | 0, _ => ⟨first, last, .ignored⟩ :: readRows fuel (last + 1) rest
      | 1, _ => ⟨first, last, .disallowed⟩ :: readRows fuel (last + 1) rest
      | 2, d :: more => ⟨first, last, .shifted d⟩ :: readRows fuel (last + 1) more
      | 3, d :: more => ⟨first, last, .alternating d⟩ :: readRows fuel (last + 1) more
      | 4, count :: more =>
        ⟨first, last, .replaced (more.take count)⟩ ::
          readRows fuel (last + 1) (more.drop count)
      | _, _ => []
  | _ => []

/-- The code points that do not simply stay. -/
def mappingTable : RangeTable RunRule :=
  let numbers := Packed.numbers
      ["Y1P2Y0X5V1002dV7042X0u8102aH2001042X0u4212dV0042X0u1002XmE2042X0v7002eF002aL1043XHeY4XK0",
       "043XHeY4XI0043XJeY4XK1M2Y0162Y0X1XE321042Z9u71042Z9ZA0042Z9ZA023224321042ZCbN0042ZCbN063",
       "21042rSZE0XC32102dH0432102mN102j40232102iS0022112iQ0022202aU002iK002iM0022102iQ002iU102j",
       "6002j20022302j6002jA102jC0432102jK0022102jK2022102jK0022112jI0232102jM002230227042Z4hU00",
       "42Z4hU0042Z4hU0042ZCZA0042ZCZA0042ZCZA0042ZEZA0042ZEZA0042ZEZA0E322G322042Z4ZQ0042Z4ZQ00",
       "42Z4ZQ0022102c1002ZF0X632102e31G32702rYM0022102g5002rYG2022102i5002aA002aE0832Z102XaF002",
       "aL002XaF002Xa1002ZL002ZJ002Z9002XZV002XZTV042X0u60042X0u70042X0uA0042X0v80042X0u30042X0u",
       "B202dP002Xd9002XcT002XcL002aTYR12ZV102YV0042u8u1002d8900X0232102hL10221110042X0zP302Xq50",
       "02d80310042X0u10043X0u8u1002YC002XiV022YA001002a0001012ZU1G2Y0001082Y0X302G002XR002XH002",
       "P002B002H002T002XB1M32102ZB002YV002YT102ZN002ZV1022102ZB0022222e30F2b00V2Y0XGX0329XK3210",
       "2U0C322YU321010X52Z0011XE042Xh5Xi2311301XN71R316G1M01YO042Xn7XpK0042Xo8XpK0042Xs7XpK0042",
       "XoAXpKZ401XG11XR11Z5D1XR11XH11F01S11101B41X061YB01ZL042YeLYfS0042YeMYfS0042YeNYfS0042YeS",
       "YfS0042Yf1YfS0042Yf2YfS0042YfBYfS0042YfFYfSX401811211M017011214119112114711310042Yj1YjS0",
       "042Yj2YjS0010042YjFYjS411P11301631211M017011042YnIYnS0011042YnOYnS0012111015312113211610",
       "042YmMYnS0042YmNYnS0042YmSYnS1010042YnBYnS061H91301901301M01701201511A013013111E1411C617",
       "01301811211M017012015119112113613310042Yv1YvS0042Yv2YvS001511I91201621301421201101221221",
       "321C315213014111511D1L41D01301N01G11901301461201301211411A61M01301N01A015119013014612413",
       "01411A013B1D01301XJ01301631G11Q01301I21O01901111721131601101851A113B1XI042ZoDZnI731TX412",
       "01101501O01101C042ZsDZrIA11501101701A110042ZrBZqP0042ZrBZr12V1C021XM042Zw2ZzN4014042ZwCZ",
       "zN4042ZwHZzN4042ZwMZzN4042ZwRZzNC042Zw0ZzL3312042ZxHZxI1042ZxHZxK0042ZzIZy00043ZzIZxHZy0",
       "0042ZzJZy00043ZzJZxHZy07042ZxHZy0H042ZyIZzN4014042ZySZzN4042Zz1ZzN4042Zz6ZzN4042ZzBZzNC0",
       "42ZyGZzL301F01DX41b0X52kc0001002kc0041002kc0011XC02XVZ210d801411701101411X901411X1014117",
       "01101411F01XP01411Y311X021Q51YM11052F011q001S21YP61M81O81KB1D013012B1XK10X811A51A51B40A5",
       "1YP61XB41Y691V01C31C31121XA115A1XC31Q51B21XU11Y101T11B51A51E11XE11CJ1YD01b671XS21F21XJ02",
       "iaR002iaP002ia7012ia3002ia5002iZN002iY7002Yay600221410XA2bxV011022bxV871XB41XC02kiL002ka",
       "D023kiN002kiN002jr9072kiN102kiP002jnJ002kiR002kiP012kiN002kiL002kk3012jl7002a7002kk9012k",
       "k7002jl1012jkV002kkB102kk7002kk5002kWB002kk5002jlT012ZR002kkB012kk5002ZN002jkL002kk9002Z",
       "D022iwL012ivJ002klH002kl1012kkT012ix7002iwD012iw5D02ipLX202jqH002kpH002jqF002kgR002jq500",
       "2kpJ002jq3002jq1002jpR022jpN002YN002jmL002jpN002Y9002jmN002jpL002jpP032jpN002jpJ012jp100",
       "2kWJ012joP002fN012joR002kq1022joN002jWDY0aK325042Z1rU002ZJ202kxT1YU32972F611052F011872F8",
       "72F611052F011801002F001002F001002F001002F872F102jy9102jyB102jyD102jyF102jwP102jwR102jwT0",
       "110042du0zP0042du1zP0042du2zP0042du3zP0042du4zP0042du5zP0042du6zP0042du7zP0042du0zP0042d",
       "u1zP0042du2zP0042du3zP0042du4zP0042du5zP0042du6zP0042du7zP0042dv0zP0042dv1zP0042dv2zP004",
       "2dv3zP0042dv4zP0042dv5zP0042dv6zP0042dv7zP0042dv0zP0042dv1zP0042dv2zP0042dv3zP0042dv4zP0",
       "042dv5zP0042dv6zP0042dv7zP0042dx0zP0042dx1zP0042dx2zP0042dx3zP0042dx4zP0042dx5zP0042dx6z",
       "P0042dx7zP0042dx0zP0042dx1zP0042dx2zP0042dx3zP0042dx4zP0042dx5zP0042dx6zP0042dx7zP2042dx",
       "GzP0042zHzP0042zCzP0011042dzMzP012F002aJ002kWT0042zHzP0042X0uJ002kW90042X0uJ0042X0w20043",
       "X0u8w20042dxKzP0042zNzP0042zEzP0011042d-6zP002bB002kXN002bB002kXP0042zNzP0043X0uJu00043X",
       "0uJu10043X0uJw2302ka5011212F002c7002kYN0010043X0uKu00043X0uKu10043X0uKw2302kZ5412F002cV0",
       "02kXR002D0043X0u8u00043X0u8u1002luT0110042dxSzP0042-9zP0042-EzP0011042d_MzP002dV002kYP00",
       "2dR002kYP0042-9zP0042X0u10042X0uK001002lzV002l-1002l-3002l-5002l-7002l-9002l-B002l-D002l",
       "-F002l-H002l-J00021110215042X0vJC21161002mWT3042eXIeXI0043eXIeXIeXI1042eXLeXL0043eXLeXLe",
       "XL4042X1X11042X0u58042XVXV0042XVX10042X1XVD044eXIeXIeXIeXI702mZT040041050002mZV002mWF011",
       "052mZV002maT002vE002mZT012mb9002mX1092maV002mbT002uE002maT012mc9001002mYT002mYN002mY5002",
       "mXL002lZL002mYP032mYL002mYJ012mYF0218042ZIZJPD1X1E10043Z1XFZ30043Z1XFZJ002mfT0042bGZ3104",
       "3Z3XFZF0043Z3XFZL002lgN1042bGZ6012mg5002mg7002mg9002mgB002l-F002mgD002mgF002mgB023mgD004",
       "2ZEZF222mgH002mgJ002mgL2042ZJZD0043ZKZ5ZC0042ZKZD102mgJ102krP102mgR102mhT002maB012miJ102",
       "miJ012miL002XO002miB002mi9032js9002miV1043Z6Z1ZO002ktN002kuJ002kuL002ktT002j2402mk1012mk",
       "3012mjT6043XHeY4XN0043XHeY4XP0044XHeY4XHXG0043XHeY4XJ0043XIeY4XJ0043XHeY4XL0043XIeY4XL00",
       "43XJeY4XL0043XKeY4XL0043XHeY4XM0043XLeY4XM0043XHeY4XO0043XJeY4XO0043XLeY4XO0043XNeY4XO00",
       "42XHeY4002mlD0042Z9Z90043Z9Z9Z90042Z9ZM002mkR0042ZMZ90043ZMZ9Z90044ZMZ9Z9Z90042Z9ZO002ml",
       "10042ZOZ90043ZOZ9Z9002mlV012mmJ002mm3002mmD0042Z9Z90043Z9Z9Z90042Z9ZM002mlR0042ZMZ90043Z",
       "MZ9Z90044ZMZ9Z9Z90042Z9ZO002mm10042ZOZ90043ZOZ9Z9002mmV012mnJ002mn330225043XGeY4XJ231aS0",
       "42enBenB0043enBenBenB1042enEenE0043enEenEenEdO12cjUdVL1BK1082oYT0042XHXG0042XHXH0042XHXI",
       "0042XHXJ0042XHXK0042XHXL0042XHXM0042XHXN0042XHXO0042XHXP0042XIXG0043X8XHX90043X8XIX90043",
       "X8XJX90043X8XKX90043X8XLX90043X8XMX90043X8XNX90043X8XOX90043X8XPX90044X8XHXGX90044X8XHXH",
       "X90044X8XHXIX90044X8XHXJX90044X8XHXKX90044X8XHXLX90044X8XHXMX90044X8XHXNX90044X8XHXOX900",
       "44X8XHXPX90044X8XIXGX90J10043X8Z1X90043X8Z2X90043X8Z3X90043X8Z4X90043X8Z5X90043X8Z6X9004",
       "3X8Z7X90043X8Z8X90043X8Z9X90043X8ZAX90043X8ZBX90043X8ZCX90043X8ZDX90043X8ZEX90043X8ZFX90",
       "043X8ZGX90043X8ZHX90043X8ZIX90043X8ZJX90043X8ZKX90043X8ZLX90043X8ZMX90043X8ZNX90043X8ZOX",
       "90043X8ZPX90043X8ZQX90P2ob90P2ocT002ohJXf1044enBenBenBenBZ7043XQXQXT0042XTXT0043XTXTXTZ5",
       "042gsTvOaN11aAXF2Z0XG022102q_D002dkB002q-D2432102rXN002q_P002rXT002rXR10222022602sX3002s",
       "WD012rZT0Z23282324022141XD01141111XO61002R1D1O81701701701701701701701701ZUX11Q01402-oSYJ",
       "02XugO0B1002lm0002loE002lp8002lpO002lrA002lu0002luC002lvI002lx4002nZC002nbM002nc0002ndC0",
       "02neI002nfQ002nj2002nkA002nkU002nuI002n-C002oW2002oWA002oY4002oYK002oa8002ob0002ocG002of",
       "M002ogO002oiC002pxI002qW0002qyM002q-2002q-G002q_4002rW6002raS002sYK002sbI002sj0002skC002",
       "slG002smQ002sq4002sq8002tgQ002thC002ti2002tiQ002tq0002tqE002tqM002txU002tyG002tz8002tzM0",
       "02uXE002uYE002uZG002ueE002viM002vlG002vmO002w-U002w_6002xaA002xb8002xc0002xd8002xfK002xf",
       "S002xwG002xxU002xzS002zzA002-XC002-YO002-cA002-dO002-e8002-eK002-hQ002-i2002-k0002XWnC00",
       "2XXj8002XXjU002XXk6002XXkC002XXkQ002XXlS002XXlU002XXqU002XYYC002XYYK002XYtO002XYuA002XYx",
       "C002XYxO002XYy8002XYyM002XZYA002XZYM002XZmS002XZn8002XZq8002XZr8002XZu4002XacS002Xad8002",
       "Xae8002XayK002XbaE002XbaO002Xbm2002XbrE002Xbu8002XclQ002Xcu2002XdxS002XdzG002XeX0002Xea4",
       "002XeeA002XeeU002Xef8002Xeh8002XelU002XemG002Xfc2002XfcE002XfcU002XfdE002XfeC002Xff8002X",
       "ffE002XfkA002XfkG002XfkQ002Xhi2002XhjS002Xih4002XihQ002Xij6002Xi-Q002Xi_I002XjZU002XjcO0",
       "02Xkg4002Xkh0002XkhS002Xkk0002Xkm8002XkyK002XkzA002XlXE002XlmS002XloO002Xl_O002XmX0002Xm",
       "X8002XmkU002XmwC002XnY4002XnYE002XnYM002Xoz0002XozG002Xpd6002XpmO002XpmS002XppO002Xpw800",
       "2Xpx0002Xpx6002XpxI002XqXK002XqZM002Xqa0002XqaQ002Xql6002XqoA002XqoG002XqzS002Xq-0002Xq_",
       "4002XrkQ002XrnO002Xro4002XrsE002Xrt0002Xrt4002XrtM002XrvG002Xso4002Xth2002XthK002XtjU002",
       "Xtl8002XtlM002Xtm8002XtmE002XtoS002Xtp2002Xtq2002XtqA002Xtr2002XtsM002XttI002Xtu0002XtxK",
       "002XtyG002XtyM0X91002tzV102tz7XJ02Y7102nmI012nmM501YM112042X0iaP0042X0iaQ2042ia8iaAYV042",
       "ibJic8041XB01012mZ1002luH002mZ3012luH022mZ7052luJ002mYB022mZL002mY5092mZN0K2l-R000012mb1",
       "012lvV002lvP002lvN002lvF002lv9002lv7002mb3002lv3002lv1012mb7002mb5012mb3002maT002maR042m",
       "aP002maL002maF002mZT002mZH002mZ9012lv1022mYP012mW5002mW1012l_H002l_F002l-T002l-P001202kc",
       "S002klI002kdA002oqC002kd8002kfC002kd6002XXvI002khU002kdS002kcA002puO002ov4002knMY691G043",
       "X8ae0X90043X8ae2X90043X8ae3X90043X8ae5X90043X8ae6X90043X8ae7X90043X8ae9X90043X8aeBX90043",
       "X8aeCX90043X8aeEX90043X8aeFX90043X8aeGX90043X8aeHX90043X8aeIX90043X8XhW0X90043X8XiaOX900",
       "43X8Xit4X90043X8XjxSX90043X8Xkk8X90043X8XlWKX90043X8XmbCX90043X8Xng4X90043X8XnyGX90043X8",
       "XpX8X90043X8XppKX90043X8Xqc0X90043X8XquCX90043X8XrgOX90043X8XodSX90044X8Xnn4XoW4X90044X8",
       "Xnn4Xrs4X90010043X8pm0X90043X8pqCX90043X8pm9X90043X8rsRX90043X8pqKX90043X8qhDX90043X8pm3",
       "X90043X8qhBX90043X8poTX90043X8qw1X90043X8vu8X90043X8yZBX90043X8xXKX90043X8vv8X90043X8Xak",
       "HX90043X8ruVX90043X8vl5X90043X8wXAX90043X8vu9X90043X8-fUX90043X8rWDX90043X8ypPX90043X8XZ",
       "b1X90043X8-gTX90043X8qrKX90043X8pt3X90043X8rZSX90043X8sx6X90043X8zt3X90043X8pu1X90043X8X",
       "Zc7X90043X8qwKX90043X8-hDX90043X8puHX90043X8XWlAX90043X8XWlJX9002nmM002sZE002vq2002XaqG8",
       "043ZGZKZ50042XIXH0042XIXI0042XIXJ0042XIXK0042XIXL0042XIXM0042XIXN0042XIXO0042XIXP0042XJX",
       "G0042XJXH0042XJXI0042XJXJ0042XJXK0042XJXL002mrV012mrT022mrR002mrP012mrN042mrL002Xyv4002X",
       "_YI002YWd8002YYmM002YZrC002Yaw2002YdZG002YfiU002YgnK002Yix2002Yj_O002YlaE002Ymf4002YnjQ0",
       "042XpXOXhd00042XodSXnwO002YgZ4102ju0002kWM002juE002obG002kX0002lkG002jtQ002lk8002jzA002m",
       "hG002wdS002--0002ywG002wfM002Xlq6002of0002vrA002wvI002wdE002XZgM002mtI002_-8002XjWM002XZ",
       "iC002mXO002XZpU002XXfQ002pjG002XkyQ002leQ002mj4002zaI002XosA002kd0002llE002yi0002jsC002j",
       "uG002jsA002rpU002mqM002mf4002qkQ002qhM002XYZE002kb8002XjXI002mgA002pcO0042XJXM0042XJXN00",
       "42XJXO0042XJXP0042XKXG0042XKXH0042XKXI0042XKXJ0042XKXK0042XKXL0042XKXM0042XKXN0042XKXO00",
       "42XKXP0042XLXG0042XHvu80042XIvu80042XJvu80042XKvu80042XLvu80042XMvu80042XNvu80042XOvu800",
       "42XPvu80043XHXGvu80043XHXHvu80043XHXIvu80042Z8Z70043Z5ZIZ70042Z5ZM0043ZCZKZ4002XYR002XYP",
       "002XYN002XYL012XYJ002XYH002XYF002XYD002XYB002XY9002XY7002XY5002XY3002XY1002XXV002XXT002X",
       "XP002XXN002XXL052XXJ002XXF002XXB002XX7002XX3042XWV002XWT002XWR052XWP032XWN0042pt4raC0044",
       "ib2icHidSic80044ib2idBicLib10044ib2idJicQib20043ib2idSidB0044ib4icBidJibG0043ib4idJic100",
       "43ib6ib9idJ0045ib8ibPibFidSic90044ib8idSibBidS0043ibAidJibP0043ibAidSid00043ibBib4idA004",
       "4ibBid9ic3ic80044ibBidDidAidS0043ibCidDidJ0043ibCidJicU0042ibEibC0043ibEicBidS0044ibDid5",
       "idAidS0044ibEidBic0idS0042ibDidD0045ibDidDibGid9id00046ibDidDid1idSic8idB0045ibDidDidFic",
       "3ic80043ibGid9id00045ibGid9id0ic8idJ0045ibFidBibSib4idD0044ibFidDidSicD0043ibHidSibP0043",
       "ibJidBicA0043ibJidSicT0044ibLib4ibFidB0045ibLidJic1idSid00044ibNidAidJibG0043ibRidJic100",
       "43ibRidJic80043ic0idSibP0042ic7ibN0042ic9idB0042ic8idJ0042icAicE0043icEic3ic80043icFib4i",
       "c40045icHidSibRidJic80043icHidSic40044icGidSidCidB0045icKib2ibPic8idB0043icKibFidB0042ic",
       "KibJ0042icJidB0045icLib1id9ic3ic90044icLib3idSic80045icMic3ibNib7idB0043icLid9idJ0045icO",
       "ibFibVidSidB0042icQibT0043icQicBicI0043icOidBic40043icQidJibP0043icQidSibO0043icPidSibV0",
       "044icTib4idJic80043icSidBic80042icRidJ0043icTidJic90043icRidSidB0043icRidSidJ0044icUib4i",
       "bFidD0043icUib4idB0043icUic3icF0043icUidBibF0045icUidJibNid7idJ0044icVibFidDidJ0042icVid",
       "A0045icVidAicGidSidB0042id1ibC0044id1ibCic8idJ0044id1idSic8idB0043id4idSic90043id4idSidB",
       "0043id6ib2idJ0044idAic3ic8idB0042idAid90043idBicKidS0044idBidSicMidB0042idCid00045idCidJ",
       "ic8ibIidJ0043idFic3ic80042XGybP0042XHybP0042XIybP0042XJybP0042XKybP0042XLybP0042XMybP004",
       "2XNybP0042XOybP0042XPybP0043XHXGybP0043XHXHybP0043XHXIybP0043XHXJybP0043XHXKybP0043XHXLy",
       "bP0043XHXMybP0043XHXNybP0043XHXOybP0043XHXPybP0043XIXGybP0043XIXHybP0043XIXIybP0043XIXJy",
       "bP0043XIXKybP0043Z8ZGZ10042Z4Z10042Z1ZL0043Z2Z1ZI0042ZFZM0042ZGZ30042Z4ZD0043Z4ZDXI0043Z",
       "4ZDXJ0042Z9ZL0042tpJumG0042vnDraC0042sf7wx30042vmExbR0044wXAtuFpuQ-fU0042ZGZ10042ZEZ1004",
       "2zSZ10042ZDZ10042ZBZ10042ZBZ20042ZDZ20042Z7Z20043Z3Z1ZC0044ZBZ3Z1ZC0042ZGZ60042ZEZ60042z",
       "SZ60042zSZ70042ZDZ70042ZBZ70042Z8ZQ0043ZBZ8ZQ0043ZDZ8ZQ0043Z7Z8ZQ0043ZKZ8ZQ0042zSZC0042Z",
       "DZC0042Z4ZC0042ZBZC0042Z6ZD0042ZEZD0042zSZD0042ZDZD0042Z3ZD0042ZBZD0043ZDZDXI0043Z3ZDXI0",
       "042ZDXI0043ZBZDXI0043ZDZDXJ0043Z3ZDXJ0042ZDXJ0043ZBZDXJ0043ZDemLZJ0044ZDemLZJXI0042ZGZ10",
       "043ZBZGZ10043ZDZGZ10043Z7ZGZ10043ZIZ1Z40045ZIZ1Z4emLZJ0046ZIZ1Z4emLZJXI0042ZGZJ0042ZEZJ0",
       "042zSZJ0042ZDZJ0042ZGZM0042ZEZM0042zSZM0042ZDZM0042ZBZM0042ZDZM0042ZGZN0042ZEZN0042zSZN0",
       "042ZDZN0042ZBZN0042ZDZN0042ZB-90042ZD-90010042Z2ZH0042Z3Z30042Z3Z40044Z3emLZBZ70010042Z4",
       "Z20042Z7ZP0042Z8Z10042Z8ZG0042Z9ZE0042ZBZB0042ZBZD0042ZBZK0042ZCZD0042ZCZE0043ZCZFZ70042",
       "ZCZO0042ZDZ20043ZDZ9ZC0043ZDZFZC0042ZGZ80010043ZGZGZD0042ZGZI0042ZJZI0042ZJZM0042ZNZ2004",
       "3ZMemLZD0043Z1emLZD0042XHvl50042XIvl50042XJvl50042XKvl50042XLvl50042XMvl50042XNvl50042XO",
       "vl50042XPvl50043XHXGvl50043XHXHvl50043XHXIvl50043XHXJvl50043XHXKvl50043XHXLvl50043XHXMvl",
       "50043XHXNvl50043XHXOvl50043XHXPvl50043XIXGvl50043XIXHvl50043XIXIvl50043XIXJvl50043XIXKvl",
       "50043XIXLvl50043XIXMvl50043XIXNvl50043XIXOvl50043XIXPvl50043XJXGvl50043XJXHvl50043Z7Z1ZC",
       "yaD21XN81gSJ10XC32JQ32102Ynb3002Ynb1YQ71X2C323XS3210218232102YbW708324022102YooF22323I32",
       "102Yoq7002YoqT002YoqL002Yoq1002Yoq7102Yon3002YooJ002Yon9002Xw00E32102YV002Yoq5002YbZF023",
       "2102YosD0E32102Ypa10J1002YptR002YpuT002YpuP002Ypu50022202Ypj1002YpgBXJ21A51XO71Y671C51ZK",
       "A1U21YE01B31X101XN81E11A11Z7N1S91611611681701701XC02YZ9002YB002Yql5002P902YqjN2310YF2Yhy",
       "VXE11A51gz4B1N31XHee31002XshF002YfWP002XrZF002XsZL002YbZ5002Yrj5002Yoo1002XisL002XisN002",
       "YlxF002XppH002Ynu7002Yly7002YhnD002YXg9002XyuJ002Xvj1002XurD002XuXJ002Xqe7002Ydn3002Yb_J",
       "002YaZP002YYpH002XwjL002XpwT002XloH002YrfH002YowD002YdXH002YZm5002Xvl3002Xjm3002Yjz1002Y",
       "apD002XvrB002XtxV002YhbN002XxqR002XumF002YjbR002YfX3002YbxV002YZYT002XqbR002YqwD002YptD0",
       "02Ypb1002YgcN002YdbR002YZo3002YXaN002Xyp5002XvoT002XvjJ002XrqF002XnWB002XkyJ002XjpV002YW",
       "gT002X_xP002XzvP002Xwt9002XpZL002Xji1002XtcL002Ymc5002YjZT002X-k7002XyiD002YZk7002YWdP00",
       "2XseB002Xnb3002Ymd3002YkkH002YdpH002Ybt5002YbZT002X-XV002XznH002XnmB002YpdV002XyiF002Ypt",
       "F002YpuH002X_pJ002XzvH002XwsD002Xnk7002XszJ002YheN002YdrJ002XtbT002Yro9002YktF002YiqR002",
       "YYzJ002YX_3002YpaN002YWcH002YqwB002YixP002YrrJ002YcfN002Yf_1002X-aF002YowF002YmmR002YXcN",
       "002Xwo9002Xti9002YcxB002Xqy1002YckJ002Yhd9002XxeT002Ygz9002YYX1002YriH002YqWT002YpwV002Y",
       "elH002X-f7002XxmP002XtgL002XpwT002YpeJ002YopR002YmWR002YjfB002YfxR002YauB002YWbL002XnzH0",
       "02XlnP002Xjl1002XjhL002YpkT002Yfi9002YdX9002XrYL002YjnJ002Yh_T002YhuV002YglD002YbcT002Ya",
       "aJ002YYmL002X_yL002Xzw3002XyoF002Xrd3002XwgL002XqtD002Xpb1002Ypu9002YplJ002Yok1002YajD00",
       "2XujR002XtlD002YjjH002YiwR002YhYH002Yc_D002X-sF002YZZ3002Yri7002YngV002Yky5002Yj_1002Yiu",
       "V002YY_L002YYq9002XzX9002XysJ002XptP002XnhN002XncL002XmvN002YrYJ002YWWF002XqW5002XnlV002",
       "YijF002Yrp7002Yqk1002YkyR002YktR002YgY9002YdxP002YZ_3002YXtT002XwiB002XqqD002XjZD002YfpP",
       "002XnvF002YppR002YfaP002YezB002YceH002YboT002YYy5002YYd7002YWs5002X-hT002Xmt3002Yqc7002Y",
       "hw7002XnrL002YqwH002YkhN002Yb-N002XrgP002YjaP002Yif9002Yey5002YZb7002XnrB002Ypx7002YoyT0",
       "02YktJ002YfyP002Yff5002YepJ002YclR002YYzR002YYW5002XzcP002XunF002XumD002XqXP002XnmF002Yp",
       "gN002Ybp3002YoyV002YaXR002YYrD002Xv_B002XnqR002XkvL002Xjr7002YfbP002YcYJ002XyWR002X_oN00",
       "2X_jF002X-sD002YZpJ002Yas3002Xtg7002YrpP002XxiF002Ypy9002Yp_H002YjrL002YhoT002X-oP002Yld",
       "T002YckD002Yfr3002XriN002XuxN002XnxN002XudT002YjpF002YqiN002YoaP202YmxB102YfvR202YqZD002",
       "YZkN002YXqP002YWjN002YWhL002YWh9002YWeN002XniB002X-rT002Xzc1102XwWR102XtoJ202Xq-P002XqoH",
       "302XmpL002XmoT002Xmm7002XkdH002XqqV002XntF002Yre3002YqqJ002Yqk9002YpsJ002YpqV002Ypk7002Y",
       "ofH002YoZ1002YnyV002Ym_H002Ymv3002YkzD002YkyR002YiwH002YijB002Yih1002YiaR002Ygl3002YgbV0",
       "02Yfx3002YexT002YciR002YcYN002Ybo9002YajJ002YaXR002YZYF002YWxJ002YWmR002YWm7002YWmB002YW",
       "lT002YWlJ002YWl7012YWi9002YWX7002X_z7002X_fB002X-c5002X-aT002X-XF002XzkF002XzbB002XycT00",
       "2Xx-7002Xx-9002XxWF002XuqV002XuiL002Xts1002XtoJ002Xsv1002XsrP002XrgV002XrYT002Xnu9002Xnc",
       "J002XnYT002Yi_B002bae4002Xyb9011002YsaJ002YqhN002YqmJ002Yrl5002YqoT002Yql9002YpwT002YptP",
       "002YojL002Yoo7002Yok1002YofH002YnY3002YmyJ002YmpJ002YmoL002YmXR002YlrH002YjwV002YjwJ002Y",
       "jnL002YjjF002YiwR002YipH002YitV002YilL002YioJ002YifH002YibF002YhiH002Yhd3002YhZP002YgpJ0",
       "02YgXP002YftL002YftF002YfpR002YdnN002YdjN002YcrB002YbxP002YbyR002YbtF002YbdP002YaoR002YX",
       "lB002YacH002YZ-V002YZtB002YZYV002YYvN002YYsF002YYeD002YYeB002YXzN002YXyN002YXx7002YXrT00",
       "2YXsJ002YWzT002X__L002X_kP002X_Z5002X-r7002X-hN002Xzt5002XzgP002Xxs1002Xxi9002XvpN002Xut",
       "9002Xup1002Xuo3002Xt_J002Xty3002Xt-V002XtxL002XtxT002Xtz1002XtuB002XtpB002XsxH002XruJ002",
       "Xrb1002XqoL002XqaT002XoaJ002Xn-7002Xnt3002XnkR002XniL002XnhV002Xnf1002XlxL002Xjp3002astM",
       "002ast8002aym8002Y_p9002YzhL002YzfL002bht8002bm_K002cX_O002Xjv9002XjqL0X510042Z6Z60042Z6",
       "Z90042Z6ZC0043Z6Z6Z90043Z6Z6ZC0042ZJZK0042ZJZK0B10042XhKXhM0042XhKXh50042XhKXhB0042XhUXh",
       "M0042XhKXhD0410042XkPXjK1042XlIXjN002ZwpR002Zwr1012ZwqT022ZwqH002ZwpT002ZwpR002ZzlR0042X",
       "l9Xk10042Xl9Xk20043Xl9XjSXk10043Xl9XjSXk20042XkGXjN0042XkGXjO0042XkGXjS0042XkHXjS0042XkI",
       "XjS0042XkJXjS0042XkKXjS0042XkLXjS0042XkMXjS0010042XkOXjS0042XkPXjS0042XkQXjS0042XkRXjS00",
       "42XkSXjS0010042XkUXjS0010042Xl0XjS0042Xl1XjS0010042Xl3XjS0042Xl4XjS0010042Xl6XjS0042Xl7X",
       "jS0042Xl8XjS0042Xl9XjS0042XlAXjS0042XkLXjP0042XkHXjV0042XkRXjV0042Xl4XjV0042XkGXkS002Zwj",
       "T002ZwjV002ZwjD002ZwjF002ZwjH002ZwjJ002ZwjF002ZwjH002ZwjJ002ZwjL002ZwjJ002ZwjL002ZwjN002",
       "ZwjP002Zwk7002Zwk9002ZwkB002ZwkD002Zwk5002Zwk7002Zwk9002ZwkB002ZwkP002ZwkR002ZwkT002ZwkV",
       "002ZwiB002ZwiD002ZwiF002ZwiH002ZwiF002ZwiH002ZwiJ002ZwiL002ZwkR002ZwkT002ZwkV002Zwl1002Z",
       "wl5002Zwl7002Zwl9002ZwlB002Zwl7002Zwl9002ZwlB012ZwlD002ZwlF002ZwlH002ZwlJ002Zwl9002ZwlB0",
       "02ZwlF002ZwlH002ZwlF002ZwlH002ZwlV002Zwm1002Zwl3002Zwl5002ZwlL002ZwlN002Zwk9002ZwkB002Zw",
       "kD002ZwkF002Zwk5002Zwk7002Zwk9002ZwkB002Zwk5002Zwk7002Zwk9002ZwkB002ZwkH002ZwkJ002ZwkL00",
       "2ZwkN002Zwk7012Zwk9002ZwkB002ZwkD002ZwkF002Zwk7012Zwk9002ZwkB002ZwkD002ZwkF002ZwkN002Zwk",
       "P002ZwkR002ZwkT002ZwjN012ZwjP002ZwjRX102ZwoB002ZwoD002ZwoF002ZwoH002ZwmV002Zwn1002Zwn500",
       "2Zwn7002Zwn5002Zwn70042Xs7XpK002Zwn5002Zwn7002ZwnL002ZwnN002ZwnH002ZwnJ002Zwn7002Zwn9002",
       "ZwnB002ZwnD002ZwvT002ZwvV0042Xn6Xn70042Xn6Xn70042Xn6XsL0042Xn6XsL0042Xn6Xo80042Xn6Xo8004",
       "2Xn6Xs70042Xn6Xs70042Xn6Xs60042Xn6Xs60042Xn6Xs80042Xn6Xs80042Xn6XsG0042Xn6XsG0042Xn6XsG0",
       "042Xn6Xo90042Xn6Xo90042Xn6Xo9002ZwoV002Zwp1002Zwp3002Zwp50042Xn6XnC0042Xn6XnD0042Xn6Xo50",
       "042Xn6Xo90042Xn6XoA0042Xn8XnC0042Xn8XnD0042Xn8XnE0042Xn8Xo50042Xn8Xo90042Xn8XoA0042XnAXn",
       "C0042XnAXnD0042XnAXnE0042XnAXo50042XnAXo90042XnAXoA0042XnBXnC0042XnBXo50042XnBXo90042XnB",
       "XoA0042XnCXnD0042XnCXo50042XnDXnC0042XnDXo50042XnEXnC0042XnEXnD0042XnEXo50042XnJXnC0042X",
       "nJXnD0042XnJXnE0042XnJXo50042XnLXnD0042XnLXo50042XnMXnC0042XnMXnD0042XnMXnE0042XnMXo5004",
       "2XnNXnD0042XnNXo50042XnOXo50042XnPXnC0042XnPXo50042XnQXnC0042XnQXo50042Xo1XnC0042Xo1XnD0",
       "042Xo1XnE0042Xo1Xo50042Xo1Xo90042Xo1XoA0042Xo2XnD0042Xo2Xo50042Xo2Xo90042Xo2XoA0042Xo3Xn",
       "70042Xo3XnC0042Xo3XnD0042Xo3XnE0042Xo3Xo40042Xo3Xo50042Xo3Xo90042Xo3XoA0042Xo4XnC0042Xo4",
       "XnD0042Xo4XnE0042Xo4Xo50042Xo4Xo90042Xo4XoA0042Xo5XnC0042Xo5XnD0042Xo5XnE0042Xo5Xo50042X",
       "o5Xo90042Xo5XoA0042Xo6XnC0042Xo6XnD0042Xo6XnE0042Xo6Xo50042Xo6Xo90042Xo6XoA0042Xo7XnC004",
       "2Xo7Xo50042Xo7Xo90042Xo7XoA0042XoAXnC0042XoAXnD0042XoAXnE0042XoAXo50042XoAXo90042XoAXoA0",
       "042XnGXpG0042XnHXpG0042Xo9XpG0043X0XoCXoH0043X0XoDXoH0043X0XoEXoH0043X0XoFXoH0043X0XoGXo",
       "H0043X0XoHXpG0042Xn6XnH0042Xn6XnI0042Xn6Xo50042Xn6Xo60042Xn6Xo90042Xn6XoA0042Xn8XnH0042X",
       "n8XnI0042Xn8Xo50042Xn8Xo60042Xn8Xo90042Xn8XoA0042XnAXnH0042XnAXnI0042XnAXo50042XnAXo6004",
       "2XnAXo90042XnAXoA0042XnBXnH0042XnBXnI0042XnBXo50042XnBXo60042XnBXo90042XnBXoA0042Xo1Xo90",
       "042Xo1XoA0042Xo2Xo90042Xo2XoA0042Xo3Xn70042Xo3Xo40042Xo3Xo50042Xo3Xo90042Xo3XoA0042Xo4Xo",
       "50042Xo4Xo90042Xo4XoA0042Xo5Xn70042Xo5Xo50042Xo6XnH0042Xo6XnI0042Xo6Xo50042Xo6Xo60042Xo6",
       "Xo90042Xo6XoA0042Xo9XpG0042XoAXnH0042XoAXnI0042XoAXo50042XoAXo60042XoAXo90042XoAXoA0042X",
       "n6XnC0042Xn6XnD0042Xn6XnE0042Xn6Xo50042Xn6Xo70042Xn8XnC0042Xn8XnD0042Xn8XnE0042Xn8Xo5004",
       "2Xn8Xo70042XnAXnC0042XnAXnD0042XnAXnE0042XnAXo50042XnAXo70042XnBXo50042XnCXnD0042XnCXo50",
       "042XnDXnC0042XnDXo50042XnEXnC0042XnEXo50042XnJXnC0042XnJXnD0042XnJXnE0042XnJXo50042XnLXn",
       "D0042XnLXnE0042XnLXo50042XnMXnC0042XnMXnD0042XnMXnE0042XnMXo50042XnNXnD0042XnOXo50042XnP",
       "XnC0042XnPXo50042XnQXnC0042XnQXo50042Xo1XnC0042Xo1XnD0042Xo1XnE0042Xo1Xo50042Xo2XnD0042X",
       "o2Xo50042Xo3XnC0042Xo3XnD0042Xo3XnE0042Xo3Xo40042Xo3Xo50042Xo4XnC0042Xo4XnD0042Xo4XnE004",
       "2Xo4Xo50042Xo4Xo70042Xo5XnC0042Xo5XnD0042Xo5XnE0042Xo5Xo50042Xo6XnC0042Xo6XnD0042Xo6XnE0",
       "042Xo6Xo50042Xo6Xo70042Xo7XnC0042Xo7Xo50042Xo7XpG0042XoAXnC0042XoAXnD0042XoAXnE0042XoAXo",
       "50042XoAXo70042Xn6Xo50042Xn6Xo70042Xn8Xo50042Xn8Xo70042XnAXo50042XnAXo70042XnBXo50042XnB",
       "Xo70042XnJXo50042XnJXo70042XnKXo50042XnKXo70042Xo3Xo40042Xo3Xo50042Xo4Xo50042Xo6Xo50042X",
       "o6Xo70042XoAXo50042XoAXo70043Xo0XoEXoH0043Xo0XoFXoH0043Xo0XoGXoH0042XnNXo90042XnNXoA0042",
       "XnPXo90042XnPXoA0042XnQXo90042XnQXoA0042XnJXo90042XnJXoA0042XnKXo90042XnKXoA0042XnDXo900",
       "42XnDXoA0042XnCXo90042XnCXoA0042XnEXo90042XnEXoA0042XnLXo90042XnLXoA0042XnMXo90042XnMXoA",
       "0042XnKXnC0042XnKXnD0042XnKXnE0042XnKXo50042XnKXnH0042XnJXnH0042XnLXnH0042XnMXnH0042XnNX",
       "o90042XnNXoA0042XnPXo90042XnPXoA0042XnQXo90042XnQXoA0042XnJXo90042XnJXoA0042XnKXo90042Xn",
       "KXoA0042XnDXo90042XnDXoA0042XnCXo90042XnCXoA0042XnEXo90042XnEXoA0042XnLXo90042XnLXoA0042",
       "XnMXo90042XnMXoA0042XnKXnC0042XnKXnD0042XnKXnE0042XnKXo50042XnKXnH0042XnJXnH0042XnLXnH00",
       "42XnMXnH0042XnKXnC0042XnKXnD0042XnKXnE0042XnKXo50042XnJXo70042XnKXo70042XnNXo50042XnJXnC",
       "0042XnJXnD0042XnJXnE0042XnKXnC0042XnKXnD0042XnKXnE0042XnNXo50042XnOXo50042Xn7XoB0042Xn7X",
       "oBI043XnAXnCXo50043XnAXnDXnC0043XnAXnDXnC0043XnAXnDXo50043XnAXnEXo50043XnAXo5XnC0043XnAX",
       "o5XnD0043XnAXo5XnE0043XnCXo5XnD0043XnCXo5XnD0043XnDXo5XoA0043XnDXo5Xo90043XnJXnDXnC0043X",
       "nJXnCXnD0043XnJXnCXo90043XnJXo5XnD0043XnJXo5XnD0043XnJXo5XnC0043XnJXo5Xo50043XnJXo5Xo500",
       "43XnLXnDXnD0043XnLXnDXnD0043XnLXo5Xo50043XnKXnDXo50043XnKXnDXo50043XnKXnCXoA0043XnKXo5Xn",
       "E0043XnKXo5XnE0043XnKXo5Xo50043XnKXo5Xo50043XnMXnDXo90043XnMXnEXo50043XnMXnEXo50043XnNXo",
       "5XnD0043XnNXo5XnD0043XnNXo5Xo50043XnNXo5XoA0043XnPXnCXo50043XnPXo5Xo50043XnPXo5Xo50043Xn",
       "PXo5Xo90043XnQXo5Xo50043XnQXo5XoA0043XnQXo5Xo90043Xo1XnEXo50043Xo1XnEXo50043Xo2Xo5XnD004",
       "3Xo2Xo5Xo50043Xo4XnDXo50043Xo4XnDXoA0043Xo4XnDXo90043Xo4XnCXnC0043Xo4XnCXnC0043Xo4XnEXo5",
       "0043Xo4XnEXo50043Xo4Xo5XnD0043Xo4Xo5XnD0043Xo5XnDXnC0043Xo5XnDXo50043Xo5XnDXoA0043Xo5XnC",
       "XnD0043Xo5XnCXo50043Xo5XnEXnC0043Xo5XnEXo52043Xo5XnCXnE0043Xo7Xo5XnC0043Xo7Xo5Xo50043Xo6",
       "XnDXo50043Xo6XnDXo90043Xo6XnCXo50043Xo6XnCXo50043Xo6XnCXo90043Xo6Xo5XoA0043Xo6Xo5Xo90043",
       "XoAXo5Xo50043XoAXo5Xo50043Xn8XnEXoA0043XnAXnCXoA0043XnAXnCXo90043XnAXnEXoA0043XnAXnEXo90",
       "043XnAXo5XoA0043XnAXo5Xo90043XnCXo5XoA0043XnCXnDXo90043XnCXo5Xo90043XnJXnEXo90043XnLXnDX",
       "oA0043XnKXnDXoA0043XnMXnDXoA0043Xo4XnCXoA0043Xo4Xo5XoA0043XoAXnDXoA0043XoAXnCXoA0043XoAX",
       "o5XoA0043Xo5Xo5XoA0043Xo2Xo5XoA0043Xo6XnDXoA0043Xo2Xo5XnD0043Xo4XnDXo50043XnPXo5XoA0043X",
       "o3Xo5XoA0043Xo6XnCXnD0043Xo5XnEXoA0043Xo4XnCXo50043Xo3Xo5Xo50043Xo4XnCXo50043Xo6XnCXnD00",
       "43XnCXnDXoA0043XnDXnCXoA0043Xo5XnCXoA0043Xo1Xo5XoA0043Xn8XnDXoA0043Xo3Xo5Xo50043XnPXnCXo",
       "50043XnLXo5Xo50043XnJXnEXoA0043Xo6XnCXoA8V10043XnLXo4XsI0043Xo2Xo4XsI0044Xn7Xo4Xo4Xo7004",
       "4Xn7Xo3Xn8XnH0044Xo5XnDXo5XnF0044XnLXo4XnPXo50044XnHXnJXo8Xo40044XnPXo4XoAXo70044Xo8XnJX",
       "o4Xo50043XnLXo4Xo9004IXnLXo4Xo9X0Xn7Xo4Xo4Xo7X0XnPXo4XoAXo7X0Xo8XnJXo4Xo50048XnCXo4X0XnC",
       "Xo4Xn7Xo4Xo70044XnHXsCXn7Xo43F0002Z--7002ZdWV001012Z-zH002Z-_7002Z-zD012ZdW1061G01002ZlX",
       "P002ZlXT002Z-z7002Z-z9012Z_WP002Z-xN002Z-xL012ZdY9012ZdYL012ZdZ5012ZdZD032ZdZ9202Z--N002",
       "Z--L0042X0u50042X0u50042X0u50042X0u5002Z--R002Z--T002Z--V002Z_Y7002ZdaV011002Z_XH002Z_XL",
       "002Z_XD002Z_ZB002Zla7012Z_Z1002Z-zV002Z-zT012ZdaH002Z_ZN002Z_ZJ012Z_ZD002Z_ZB002Z_YF002Z",
       "_YD002Z_YH001002Z_WN012Z_a9002Z_YL0310042X0XoB0042Xo0XoB0042X0XoC1042X0XoD0010042X0XoE00",
       "42Xo0XoE0042X0XoF0042Xo0XoF0042X0XoG0042Xo0XoG0042X0XoH0042Xo0XoH0042X0XoI0042Xo0XoI012Z",
       "ybT012ZybV012Zyc1012Zyc3012Zyc5002Zyc7002Zyc9012ZycB012ZycD002ZycF002ZycH012ZycJ012ZycL0",
       "02ZycN002ZycP012ZycR002ZycT002ZycV012Zyd1002Zyd3002Zyd5012Zyd7002Zyd9002ZydB012ZydD002Zy",
       "dF002ZydH012ZydJ012ZydL012ZydN012ZydP012ZydR002ZydT002ZydV012Zye1002Zye3002Zye5012Zye700",
       "2Zye9002ZyeB012ZyeD002ZyeF002ZyeH012ZyeJ002ZyeL002ZyeN012ZyeP002ZyeR002ZyeT012ZyeV002Zyf",
       "1002Zyf3012Zyf5002Zyf7002Zyf9002ZyfB002ZyeV002Zyf1002Zyf3012Zyf5002Zyf7002Zyf9012ZyfB002",
       "ZyfD002ZyfF012ZyfH002ZyfJ002ZyfL012ZyfN002ZyfP002ZyfR012ZyfT002ZyfV002Zyg1012Zyg3002Zyg5",
       "002Zyg7012Zyg9012ZygB012ZygD002ZygF002ZygH002ZygJ0042Xo4Xn20042Xo4Xn20042Xo4Xn30042Xo4Xn",
       "30042Xo4Xn50042Xo4Xn50042Xo4Xn70042Xo4Xn70110000010V2Z_jV0P2Z_hV0X32Z_jV012ZgzJ002Z_p501",
       "2ZdrB002Zds5002ZdcJ002Zdd7002ZdiB002Zdi9002Zdi7002Zdi5002Zdi3002ZdeH002ZdeF002ZdeD002Zdg",
       "N002Zdd7002ZdiT002ZdiR002ZdiP002ZdiN012ZdiL002ZdiJ002ZdiH002ZdiF002ZdiD002ZdiB002Zdi9002",
       "Zdi7002Zdi5002Zdi3002Zdi1002ZdhV002ZdhR002ZdhP002ZdhN052ZdhL002ZdhH002ZdhD002Zdh9002Zdh5",
       "042Zdh1002ZdgV002ZdgT052ZdgR002ZdgP002ZdgJ012Zdm9000012Ztg1002Zs_H002Ztg3012Zs_H022Ztg70",
       "52Zs_J002ZtfB022ZtgL002Ztf5092ZtgN021052Ztc1011052Ztc5011052Ztc9011022ZtcD021012Z_pR002Z",
       "_pB0042X0u4002Z_pR002Z_pV002ZlpP001002ZjkB032ZlbH002ZjaP002ZjY50G1C01Q01J01201F11EX11ZR4",
       "1331XD21YO01D211XE1XEa11T21XHE1S31X481U41XB41U01X531EX910X72YGZM11A510X32YG031X431X871XK",
       "A11A2YE0010E2YE001062YE001012YE001B01F01701221XKB1fN81M918N1112aYh1002aZfP002aYkL002aYp3",
       "001002aYk7002XkY3002aYk7002aYkB012aYp9002Zq_N002aYpB002aYp1002aYkD002aYoP002aYoV002aYp50",
       "02aYlH002aZcR002aYlJ002aYoV002aYn7012aYkT002aYoT002ZhsG002XmWT002aYoV002ZhsC002aYn3002Zh",
       "sA002aZgJ012aYoP002aZp7002aYoN002Zhs2012aYoL002aYoJ002aYm5002aYmB002XkaB002aYmD002aYoD00",
       "2ZjpT001002aYo5012aYn3002aYnP022aY_B002Zhr2002Zhs80Y41611101XC01221111N01Y8719XF1J01241X",
       "121R41RX51XO31K11XI01241801301T11331A61961Y0V1X731C81XM21T11R41Q614B17YF1Y9XM10XI2a00C1X",
       "J61XE71A51GL2Y0021T712cF1V01XA013112F16719X01XE71XAL1QX51SJ1N81YE31X481XU015C1P61A51XL01",
       "I71X781Z001KA1I01XFXT1701101401F01B51XR41A51401811211M01701201501A112113111511417117215A",
       "1A01111101X601A01111101401A012712S1YS015T1Y871Ab51XM11X6X11Y5A1A51DI1XQ51A51KR1R11F31NbO",
       "1XSZ310V2Y0XJB1811111801201U01211C81AY51811XE11BQ1Y871YJC1Y961AYL18YN1X2D1A51901XD01E91T",
       "21X011M01EY81701201XC21101201971A51601201X501201661A51XC31AdL1P61H01X921TYK11E1XIC1yRZ51",
       "ZF015A1c4YoB1Z3C1XXGF1M91ZyR41o7crO1XQXs51nP61V01A31YH01A51U11691Y691A01701L41JjF1XQc510",
       "V2Y0XR410O2XM011PXB1YB31XP61HXV15A1781dcMX81X0Z01ZJelS1401701201f3E11S13111D1471iCYe31ZB",
       "41D21961A114300ZwR1cMP2dcd9092dchV321jK51NE1HE1XE11N81ZKXR1dM91X711XL042ZqgNZqh50042ZqgO",
       "Zqh50043ZqgOZqh5ZqhE0043ZqgOZqh5ZqhF0043ZqgOZqh5ZqhG0043ZqgOZqh5ZqhH0043ZqgOZqh5ZqhIE70Y",
       "0042ZqjPZqh50042ZqjQZqh50043ZqjPZqh5ZqhE0043ZqjQZqh5ZqhE0043ZqjPZqh5ZqhF0043ZqjQZqh5ZqhF",
       "XAK1Y6ZP1KB1KB1YN81Pa610P2dfvT0P2dfxH0P2dfz5062df-P0010H2df-P0P2dgWD0P2dgY1002dgZL001012",
       "dgZL011002dgZL011012dgZL011032dgZL001072dgZL032dgb9001002dgb9001062dgb90010A2dgb90P2dgcT",
       "0P2dgeH012dgg5001032dgg5011072dgg5001062dgg50010P2dghP012dgjD001032dgjD001042dgjD001002d",
       "gjD021062dgjD0010P2dgl10P2dgmL0P2dgo90P2dgpT0P2dgrH0P2dgt50P2dguP0P2dgwD0P2dgy10P2dgzL0P",
       "2dg_90P2dhWT0P2dhYH002dgt5002dgcR0110G2dflD002dfm1062dflD002cwhJ0G2dfn1002dfmV062dfn1002",
       "cwjH002dfoD002dfo9002dfo7002dfnH002dfnT002dfo10G2dfp1002dfpL062dfp1002cwl70G2dfqL002dfqJ",
       "062dfqL002cwn5002dfs1002dfrT002dfrR002dfr5002dfrH002dfrL0G2dfsL002dft9062dfsL002cwoR0G2d",
       "fu9002dfu7062dfu9002cwqP002dfvL002dfvH002dfvF002dfuP002dfv5002dfv90G2dfw9002dfwT062dfw90",
       "02cwsF0G2dfxT002dfxR062dfxT002cwuD002dfz9002dfz5002dfz3002dfyD002dfyP002dfyT0G2dfzT002df",
       "-H062dfzT002cww30G2df_H002df_F062df_H002cwy1002dgWT002dgWP002dgWN002dgW1002dgWD002dgWH00",
       "2df-P002df-R011092dhvR092dhwF092dhx3092dhxN092dhyBqCE1501FXYF1V516cK1701H11701201541082d",
       "j_V022dj_T0A2dj_R002dj_N012dj_L002ayy1002djt3002dj_B002dj_9002djs9002djvV002dju1082dkY10",
       "12dkXV012dkXR002dkXP052dkXN012dkXL002djzB002dkX3002dkX7002dkWL002djxV002azXL002djxN0X011",
       "ZF1XD21E11A312fV1VG1XQ411kF1XAcL1XB311bV1V01M712cV1701401201F01c511GX810X12Y4XA31A312uG1",
       "Y4YB1XTc11012dpzH002dpzB002dpz7001002dpxP002dpz7002dpzJ002dpz1002dpxT032dpyD002dpzL002dp",
       "zB002dpyT002dpzN002dpyV002dp-3002dpzV012dp-L002dp-H002dp-F002dp-5002dp-3002dp-1002dpwR00",
       "2dps5002dptP002dpwV001002dp_H002dp_B001002dpzP011002dp_J001002dpzT032dp-D002dp_L002dp_B0",
       "02dp-T002dp_N002dp-V001002dp_V012dqWL002dqWH001002dqW5001002dqW1051002dqXB031002dqXJ0010",
       "02dp_T001002dqWD001002dqWD002dqXL002dqXB001002dqXN002dqWV001002dqXV011002dqYH001002dqY50",
       "01002dqY1001002dpw5001002dp-V001002dqZH002dqZB001002dqXP011002dqZJ002dqZ1002dqXT002dqYD0",
       "01012dqYD002dqZL002dqZB002dqYT002dqZN002dqYV001002dqZV012dqaL002dqaH001002dqa5002dqa3002",
       "dqa1002dqWR001002dpzP001012dqbH002dqbB002dqb7012dqZP002dqb7002dqbJ002dqb1002dqZT001022dq",
       "aD002dqbL002dqbB002dqaT002dqbN002dqaV002dqc3002dqbV012dqcL002dqcH002dqcF002dqc5002dqc300",
       "2dqc1041002dqdH002dqdB002dqd7001002dqbP002dqd7002dqdJ002dqd1002dqbT001022dqcD002dqdL002d",
       "qdB002dqcT002dqdN002dqcV002dqe3002dqdV012dqeL002dqeH002dqeF002dqe5002dqe3002dqe10XJ12eD1",
       "XC31Z4B1F11F01F01X5A10042XGXC0042XHXC0042XIXC0042XJXC0042XKXC0042XLXC0042XMXC0042XNXC004",
       "2XOXC0042XPXC5043X8Z1X90043X8Z2X90043X8Z3X90043X8Z4X90043X8Z5X90043X8Z6X90043X8Z7X90043X",
       "8Z8X90043X8Z9X90043X8ZAX90043X8ZBX90043X8ZCX90043X8ZDX90043X8ZEX90043X8ZFX90043X8ZGX9004",
       "3X8ZHX90043X8ZIX90043X8ZJX90043X8ZKX90043X8ZLX90043X8ZMX90043X8ZNX90043X8ZOX90043X8ZPX90",
       "043X8ZQX90043iWKZJiWL002duiF002duhJ0042Z3Z40042ZNZQ1P2duiT0042Z8ZM0042ZDZM0042ZJZ40042ZJ",
       "ZJ0043ZGZGZM0042ZNZ3Q042ZDZ30042ZDZ40042ZDZIX3042Z4ZATXN1Q042iZRiYB0042ibJibJ002dWqP0C10",
       "02cdy9002chhJ002claB002dWqN002cnuF002cilL002bqZ5002cikR002cnt7002cb_H002cWlH002cce3002cl",
       "yT002cff1002cmf1002cccT002cmW5002bwjT002b-m5002botJ002cip7002ck-N002cXn3002cdv3002cdj500",
       "2coYH002coY1002bm-1002cgaB002cn_V002clZL002cdoF002bohV002cdzR002byh1002bxxH002clYN002cXx",
       "9002cboP002cboT002b-m9002clyD002cke7002bmkR0310043iWKvvCiWL0043iWKpm9iWL0043iWKpqCiWL004",
       "3iWKsy9iWL0043iWKybPiWL0043iWKuoJiWL0043iWKzsNiWL0043iWKqsTiWL0043iWKvgNiWL061002cfhH002",
       "clc30D16aP1-P21H21D21cQ51C311E1C31XO71A51X871U11C312D19X61gO71E11D21B21XP01131G11C31A61a",
       "J01YS92dzxV1XW41Xft0V1aeU11bqE11dfHE1pEYj11002gqy5002gqyH002gqy1002Zxk1002gqg7002gqbD002",
       "gqaL002gqW9002gpuR002gpsV002gpo5002gppN002hXsR002Zuz5002gpi1002gphL002gpgN002gpfJ002ZvlB",
       "002hXrJ002gpgP002gpeF002ZviL002gpdV002gpd7002gqqP002gpcR002gpcB002XpZP002gpYF002gpXL002h",
       "XpV002go-9002gozL002gowV002gowN002hXmT002gorR002gorP002goq5002gooR012goo7002gon7002gok50",
       "02gojN002goj7002gohN002goh5002goh3002goh5002goh7002ZtWF002gZy9002gocN002gobF002Zsj9002go",
       "aR002goaH002goZ9002gnvR002goW9002gn_B002gnzD002gnvR002gnqL002gnp3002gnkV002gnk1002gni100",
       "2gni3002gngR002gnfP002gnfB002gneF002gmp9002gnaB002gmpB002gm_P002gmzL002gpaH002gls5002gme",
       "7002gmbT002gmaD002gmiJ002gmY7002gmYB002glwN002Znt9002glsF002gls7002glrB002glq5002glpN002",
       "gllP002ZmxF002ZmtD002gldB002glaF002glZP002gleP002gk_V002hWtH002hWsN002gks1002gkoN002gkoP",
       "002Zlg7002gkgJ002gkfB002gkeF002gkdP002ZkrH002gkd5002gkcP002gio1002gkb5002hWl9002gkXD002g",
       "kWJ002gjxH002gj-P002ZjfD002gjpH002ZjfD002gjmV002gjn7002gjm7012gjfV002hWb7002gjeD002gjbP0",
       "02gjaH002gjXR002hWYB002ZhmB002hWWR002gizL002gizH002gizD002giy7002XglP002giv3002ZgrV002Zg",
       "s1002fxf3002git3002git5002g_yT002ZYzT002YhhR002gipD002gioT002g_xF002gim3002giiV002giiD00",
       "2gigB002giXT002g_sD002g_uB002giWT002ZeyV002ghzR002ghrR002ghrL002ghrJ002ghrP002ghoV002ghn",
       "P002ghlJ002ghmH002ghlT002ghj1002ghhR002ghhL002ghg3002ghfF002ghbD002ghW7002gg-3002ggsD002",
       "ZcwN002ggtN002ggxR002ggr5002ggpH002ggjH002ZciP002ggfP002gglL002ggnF002g_f7002ggbJ002ggaB",
       "002ggYF002ggaT002g_bL002gftH002gfrP002ZahV002gfkF002gez7002gfe7002g-x9002gfZR002g-yF002g",
       "--P002gppV002gppR002gez7002gfZH002fyYH002gwlR002gey1002gexR002gexH002getP002geuH002ZYnJ0",
       "02g-v9002gek9002gerL002geeT002gebP002ZYdB002gebB002geiB002gdz3002g-qJ002gdwB002gdqB002gd",
       "lV002gda5002ZXaH002gdX3002g-jB002gcyR002ZWaH002gcvP002g-g7002gcu1002gcr9012gcpL002Y_cJ00",
       "2Zj-P002Y-_T002gcgN002Y-ZT002gcZP002gcYV002gcfD002gb-H002gby3002gbuJ002gby1002gbvJ002gbu",
       "N002gbtV002Yz-F002gbz5002gbjH002gbfL002gzzD002gbZV002gba9002YzZN002gbn9002gaw1002Yyx3002",
       "Yyu5002gaqN002gajJ002galB002galJ002gztV002gaiP002gafL002gag3002gacP002Zv_B002gZzD002YxhJ",
       "002gZu3002Ywt7002gZlF002gZkN002gZj3002YvnL002gZg7002gZeV002Yu_1002Yun5002gYwR002gYvR002g",
       "zdR002gYuB002gzd7002gzd9002gYkD002gYj5002gYhT002gYgN002gYcF002gzXF002gYWV002YslT002gX_F0",
       "02Ysg9002gXyF002ZhvJ002gXoJ002YqvJ002Yqu7002YqlH002gyq3002gypD002gXaN002YqaR002YqaV002Yq",
       "YJ002YqX1012gXYD002gXYF002gW_R002gymV002gWxT002gym9002gyhB002YooV002gWlV002gWi5002gWe700",
       "2gycR002YnoN002f__P002YnhJ002YneV002f_yD002f_sN002gyYH002f_nH002f_mV002f_mN002YlzV002Ylh",
       "B002YlhD002f_d1002gxrR002YkxB002f-vN002f-vJ002gxpP002Ykk9002f-f7002gxiD002f-dV002f-eB002",
       "f-cJ002Yi-9002f-WH002gxcN002fzwD002fzsP002fzoL002gxZP002YhqJ002YhoN002gxXL002YhfN002fy_N",
       "002YhZH002fy-5002fytT002fyt9002Ygg1002YgbH002fynP002YfzB002fymT002ZZY1002gwwN002fyiV002f",
       "ydV002gwtH002fyaD002glj1002YezV002Yez5002ZY_B002ZY-R002fxuJ002fxuF002fq-T002gwo5002fxlR0",
       "02fxm9002fxl7002gpjT002fxk3002fxk1002fxjF002fxgV002YdbL002fxh5002fxdN002fxZD002fw-R002fx",
       "dH002fwzV002fwxD002fwqF002fxaP002fwzD002fwzB002fwyD002YcsR002YcZJ002Ycj1002gwdN002fwhD00",
       "2fwhB002fwf7002YY-1002fwaF002Ybe1002gwb1002gwaR002Ya_T002YajT002gwaD002fvs5002fvrF002fvq",
       "R002fvqP002fvmR002fvoV002fvgL002fvjF002fva3002fvf7002fvb3002fvZF002gv-F002fuzT002fuxV002",
       "gvyH002fus5002fus1002YXrR002fukT002fukH002gvv5002fuiT002hYmT002YWnP002YWcB002gvmT002gvmD",
       "002ftoT002ftk5002ftaD002fstP002X-oL002fsoH002fsn7002fshL002fsbV002XzgH002Zuz9002fsWT002f",
       "sXT002fr-N002ZulT002frmJ002frgD002XwWR002Xv_7002fqqR002fql3002fqj5002XvhD002fqiL002fpwT0",
       "12fpn1002fpsR002fo_3002fozD002Xs_5002foc5002gubJ002foZH002XsdJ002guWN002fnoV002gka3002fn",
       "j3002Xqh1002XpzP002gtuJ002gtu5002fnXJ002Xo_1002gtqJ002XosD002fm_5002fm_7002fmzD002XoaL00",
       "2fmnV002gtiV002fmjL002fmbR002fma7002fmWH002gtZJ002XljH002fllF002fkyL002fkmT002gspT002gso",
       "1002fkgF002Xiq3002gsnH002XimP002XiW9002Xhu5002fjrJ002gshV002fjnR002fjnJ002fjn7002fjmL002",
       "fjm9002fjk1002XgXP0Xl11awB41efArpa510dF00b_mF1"]
  ⟨(RunRule.readRows numbers.length 0 numbers).toArray⟩

/-- What a rule for a run that begins at `first` says of one of its code points. -/
def RunRule.ruleAt (first code : Nat) : RunRule → Rule
  | .ignored => .ignored
  | .disallowed => .disallowed
  | .shifted d => .mapped [Packed.shift code d]
  | .alternating d => if (code - first) % 2 = 0 then .mapped [Packed.shift code d] else .valid
  | .replaced codes => .mapped codes

/-- The rule for a character. -/
def rule (c : Char) : Rule :=
  (mappingTable.row? c.toNat).elim .valid fun row => row.value.ruleAt row.first c.toNat

end ScopedAuth.Idna
