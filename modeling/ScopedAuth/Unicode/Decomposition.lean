import ScopedAuth.Unicode.Packed

/-!
# Canonical decompositions and compositions

The property `Decomposition_Mapping`, carried through to the end for every character that has a
canonical decomposition, and the pairs that compose into one character.  Hangul syllables are not
listed: they decompose by arithmetic.
-/

namespace ScopedAuth.Unicode

/-- A character and the full canonical decomposition of it. -/
abbrev Decomposition := Nat × List Nat

/-- Reads the rows of the decomposition table: the distance from the row before, a count, and that
many code points as signed distances from the row's own. -/
def Decomposition.readRows (fuel : Nat) (last : Nat) : List Nat → List Decomposition
  | gap :: count :: rest =>
    match fuel with
    | 0 => []
    | fuel + 1 =>
      let code := last + gap
      (code, (rest.take count).map (Packed.shift code)) ::
        readRows fuel code (rest.drop count)
  | _ => []

/-- Every character with a canonical decomposition, Hangul syllables excepted, in ascending
order. -/
def decompositionTable : Array Decomposition :=
  let numbers := Packed.numbers
      ["c02dTXa012dVXa012e1Xa012e3Xa012e5Xa812e7XaA22e7Xc012e5XZG12e7XZG12e9XZG12eBXZQ12e5XZ812e",
       "7XZ812e9XZ812eBXZI22e5XZ412e5XYS12e7XYS12e9XYS12eBXYS12eDXZ432e7XYE12e9XYE12eBXYE12eDXYO",
       "12e7XY832dTXY012dVXY012e1XY012e3XY012e5XY812e7XYA22e7Xa012e5XXG12e7XXG12e9XXG12eBXXQ12e5",
       "XX812e7XX812e9XX812eBXXI22e5XX412e5XWS12e7XWS12e9XWS12eBXWS12eDXX432e7XWE12e9XWE12eBXWE1",
       "2eDXWO12e7XW822eBXWI12hTXW812fVXW612i1XW812g3XW612i5XY812g7XY612i5_M12g7_K12i9_K12gB_I12",
       "iD_Q12gF_O12iHXW012gJ_U12iJ_S12gL_Q32iP_412gR_212iT_412gV_212j1_212h3_012j5XX012h7XWU12j",
       "9_412hB_212j9-C12hB-A12jD-G12hF-E12jH-E12hJ-C12jLXWA12hNXW812jNzS12hPzQ32jTzM12hVzK12k1z",
       "K12i3zI12k5zK12i7zI12k9_K12iB_I12kDzE42kJyS12iLyQ12kL_212iN_022kPyG12iRyE12kT-O12iV-M12l",
       "1yU12j3yS52l9xS12jBxQ12lD-412jF-212lHyA12jJy842lPxG12jRxE12lTxG12jVxE12m1xM12k3xK32m3wQ1",
       "2k5wO12m7z212k9z012mBx812kDx612mDwE12kFwC12mHwC12kJwA12mLyI12kNyG12mPwO12kRwM12mRyA12kTy",
       "812mVwG12l1wE32n5vM12l7vK12n9vK12lBvI12nDvK12lFvI12nHvO12lJvM12nLvM12lNvK12nPxC12lRxA12n",
       "PuS12lRuQ12nPuO12lRuM12nTv012nTuG12lVuE12o1uO12m3uM12o5uU12m7uSX22r1tM12p3tKE2rJsO12pLsM",
       "T2uNpU12sPpS12uBpQ12sDpO12u3pM12s5pK12tRpI12rTpG13tVp6oU13s1p4oS13u3p2oK13s5p0oI13u7oUp6",
       "13s9oSp413uBoQoA13sDoOo823vPoKoC13tRoIoA13vToEo813tVoCo612nNo412lPo232vToC12tVoA12vPo812",
       "tRo612vLpS12tNpQ13vPpOnG13tRpMnE12ZDnS12g6nQ12uBnO42wPmQ12uRmO32wJmG12uLmE13xHn0mE13vJmU",
       "mC12pBmA12nDm812oBm612mDm412xTmU12vVmS12y1mU12w3mS12xTmM12vVmK12y1mM12w3mK12xTmE12vVmC12",
       "y1mE12w3mC12xPm612vRm412xTm612vVm412xRlU12vTlS12xVlU12w1lS12xTlM12vVlK12y1lM12w3lK12y9mS",
       "12wBmQ12yBmO12wDmM32zBkS12xDkQ72-9k212yBk012-5lU12y7lS13zLjSjK13xNjQjI13zPjEjG13xRjCjE12",
       "zTjI12xVjG13-1jEj813y3jCj612zHj412xJj2eD1ZV11ZV21YV12ZNa5XG1hLA1Xq572XjPe712Me911XiV12Qe",
       "D12SeF12UeH22X6eL22XEeP12XKeR13YIeFeTQ2X1g312Bg512AgL12GgN12IgP12KgR13XAgFgTQ2X1i312Bi51",
       "2PiL12FiN129iP521j3123iNXC2XAlV12X8lH22X0m3421lT52SmL12MmP12XAmFB21n5X021p5N2XLqV12XNqH2",
       "2XVr3421qT52Y3rL12Y9rP12XLrFO23sD123sFYA2gLxL12eNxNE2hVyJ12g1yL12i3yJ12g5yL32i1yV12g3z13",
       "23z3123z512iBz712gDz912iDzB12gFzD32iJzR12gLzT12iNzN12gPzP12iFzR12gHzT323-3123-512hT-712f",
       "V-912iL-J12gN-L12iP-F12gR-H12iT-D12gV-F12iP-N12gR-P32iP-V12gR_1f92AZ2128Z212Y8Z0124Z012Y",
       "8YSaQ2XAcN221cRH21dToM21X6821M321GX42a5XN12a5XP12a5XR12ZTXT12ZLXV12ZLY112Z5Y312YVY5ZC27P",
       "129MG2ZLXV12ZLY122YVY5YK21I324CX32a5XP12a5XR12ZTXT32Z5Y3dA21S327P129MG2ZLXV12ZLY1XN23a6X",
       "M27N127P12BMZS23SZO21XA721S123S227F139HKZV27N127P12BMaE21V225P137RX51292h521d8A21cK521cA",
       "521c0521bMD2YHaOA231227112ZOK22ZMG92V1I21Y8A21XK521XA521X0521MD2YH7ZD21GYt021YU221YQ221Y",
       "M221YI221YE421Y6X921B221F323L123N221RrT2kxTjjL12kvVjjN12kxVjlL12kw1jlN12ky3jk112kw5jk312",
       "ky7jj912kw9jjB13ky9jk1jmD13kwBjk3jmF12kyBjm512kwDjm712kyFjkH12kwHjkJ12kyJjjP12kwLjjR12ky",
       "NjkH12kwPjkJ12kyRjk912kwTjkB13kyTjmVjn713kwVjn1jn913kz1jn3jn913kx3jn5jnB12kz5jkL12kx7jkN",
       "12kz9jkJ12kxBjkL13kzDjl9jnB13kxFjlBjnD12kzFjnD12kxHjnF12kzHjnN12kxJjnP12kzJjnL12kxLjnN12",
       "kzNjm112kxPjm312kzRjnR12kxTjnT12kzVjm112ky1jm312k-3jlN12ky5jlP12k-5jlN12ky7jlP13k-9joBjo",
       "P13kyBjoDjoR12k-9joT12kyBjoV12k-DjmT12kyFjmV12k-Hjm512kyJjm712k-Jjn512kyLjn713k-Njn9jp71",
       "3kyPjnBjp912k-RjmH12kyTjmJ12k-VjmT12kz1jmV12k_1jpP12kz3jpR12k_5jpH12kz7jpJ12k_9jnT12kzBj",
       "nV12k_BjpP12kzDjpR12k_Fjo512kzHjo712k_JjnD12kzLjnF12k_NjnP12kzPjnR13k_PjqHjqL13kzRjqJjqN",
       "13k_TjqLjqB13kzVjqNjqD13lW1jqNjqV13k-3jqPjr113lW5jqRjr113k-7jqTjr312lW7jr512k-9jr712lWBj",
       "qT12k-DjqV12lWBjr112k-Djr312lWFjpD12k-HjpF13lWJjpHjrF13k-LjpJjrH12lWNjoP12k-PjoR12lWPjrH",
       "12k-RjrJ12lWTjpT12k-VjpV13lX1js5jrP13k_3js7jrR13lX5jrJjrT13k_7jrLjrV13lX9jq9js113k_BjqBj",
       "s312lXBjs512k_Djs712lXFjqH12k_HjqJ12lXJjpP12k_LjpR12lXNjq512k_Pjq712lXPjqR12k_RjqT12lXTj",
       "q712k_Vjq912lY1jqH12lW3jqJ13lY5jt9jtD13lW7jtBjtF13lY9jtBjt313lWBjtDjt512lYBjtH12lWDjtJ12",
       "lYFjrL12lWHjrN12lYHjtV12lWJju112lYLju112lWNju312lYPjtN12lWRjtP12lYTjtT12lWVjtV12lZ1js912",
       "lX3jsB12lZ3ju512lX5ju712lZ7ju712lX9ju912lZ9juD12lXBjuF12lZBjuR12lXDjuT12lZFjsT12lXHjsV12",
       "lZJjs512lXLjs712lYRjs912lY5juT12lY1juR12lXVjuT22knNjv752lbTjtP12lZVjtR12lc1jvH12la3jvJ13",
       "lc5jw3jw513la7jw5jw713lc9jw7jwB13laBjw9jwD13lcDjwBjvT13laFjwDjvV13lcHjwFjwD13laJjwHjwF13",
       "lcLjuHjwJ13laNjuJjwL13lcPjwFjwP13laRjwHjwR13lcTjwJjwV13laVjwLjx113ld1jwNjwH13lb3jwPjwJ13",
       "ld5jwRjx113lb7jwTjx313ld9jv5jwV13lbBjv7jx112ld5jv912lb7jvB12ld9jx112lbBjx312ldDjxH12lbFj",
       "xJ13ldHjxNjxP13lbJjxPjxR13ldLjxRjxV13lbNjxTjy113ldPjxVjxH13lbRjy1jxJ13ldTjy3jy113lbVjy5j",
       "y313le1jw5jy713lc3jw7jy912ldTjxT12lbVjxV12le1jwD12lc3jwF12ldPjwH12lbRjwJ12ldTjy912lbVjyB",
       "13le1jyRjyT13lc3jyTjyV13le5jyVjz313lc7jz1jz513le9jz3jyL13lcBjz5jyN13leDjz7jz513lcFjz9jz7",
       "13leHjx9jzB13lcJjxBjzD13leLjxTjzH13lcNjxVjzJ13lePjy1jzN13lcRjy3jzP13leTjy5jz913lcVjy7jzB",
       "13lf1jy9jzP13ld3jyBjzR13lf5jyDjxT13ld7jyFjxV12leTjy112lcVjy312lf1jzP12ld3jzR13lf5jyPj-D1",
       "3ld7jyRj-F13lf9jyTj-J13ldBjyVj-L13lfDjz1j-513ldFjz3j-713lfHjz5j-L13ldJjz7j-N13lfLjz9jyP1",
       "3ldNjzBjyR12lfHj_312ldJj_512lfLjz112ldNjz312lfPj-P12ldRj-R12lfTj_912ldVj_B72jqTj-P12jqVj",
       "-P13jr1j-TkW313jr3j-TkW513jr5j_1kW513jr7j_1kW713jr9j_5jy713jrBj_5jy912jtDj_912jtFj_913jt",
       "Hj_DkWJ13jtJj_DkWL13jtLj_HkWL13jtNj_HkWN13jtPj_LjyN13jtRj_LjyP12jrLj_P12jrNj_P13jrPj_TkX",
       "313jrRj_TkX513jrTkW1kX513jrVkW1kX732ju5kW912ju7kW913ju9kWDkXJ13juBkWDkXL13juDkWHkXL13juF",
       "kWHkXN32jsHkWP12jsJkWP13jsLkWTkY313jsNkWTkY513jsPkX1kY513jsRkX1kY713jsTkX5j-713jsVkX5j-9",
       "12jv1kX912jv3kX913jv5kXDkYJ13jv7kXDkYL13jv9kXHkYL13jvBkXHkYN13jvDkXLj-N13jvFkXLj-P12jtDk",
       "XP12jtFkXP13jtHkXTkZ313jtJkXTkZ513jtLkY1kZ513jtNkY1kZ713jtPkY5j_713jtRkY5j_912jvTkY912jv",
       "VkY913jw1kYDkZJ13jw3kYDkZL13jw5kYHkZL13jw7kYHkZN13jw9kYLj_N13jwBkYLj_P12ju1kYP12ju3kYP13",
       "ju5kYTka313ju7kYTka513ju9kZ1ka513juBkZ1ka732jwHkZ912jwJkZ913jwLkZDkaJ13jwNkZDkaL13jwPkZH",
       "kaL13jwRkZHkaN32juLkZP12juNkZP13juPkZTkb313juRkZTkb513juTka1kb513juVka1kb713jv1ka5kX713j",
       "v3ka5kX922jx7ka923jxBkaDkbL23jxFkaHkbN23jxJkaLkXP12jvDkaP12jvFkaP13jvHkaTkc313jvJkaTkc51",
       "3jvLkb1kc513jvNkb1kc713jvPkb5kY713jvRkb5kY912jxTkb912jxVkb913jy1kbDkcJ13jy3kbDkcL13jy5kb",
       "HkcL13jy7kbHkcN13jy9kbLkYN13jyBkbLkYP12jxTkcV12jxVkcV12jxPkd312jxRkd312jxPkd712jxRkd712j",
       "xPkdB12jxRkdB12jxHkdF12jxJkdF12jx9kdJ12jxBkdJ12jx5kdN12jx7kdN33jyTkcPkZL13jyVkcPkZN14jz1",
       "kcTke3kZP14jz3kcTke5kZR14jz5kd1ke5kZT14jz7kd1ke7kZV14jz9kd5ka7ka114jzBkd5ka9ka313j_Dkd9k",
       "a513j_Fkd9ka714j_HkdDkeJka914j_JkdDkeLkaB14j_LkdHkeLkaD14j_NkdHkeNkaF14j_PkdLkaNkaH14j_R",
       "kdLkaPkaJ13jzHkdPkaL13jzJkdPkaN14jzLkdTkf3kaP14jzNkdTkf5kaR14jzPke1kf5kaT14jzRke1kf7kaV1",
       "4jzTke5kb7kb114jzVke5kb9kb313kW1ke9kb513kW3ke9kb714kW5keDkfJkb914kW7keDkfLkbB14kW9keHkfL",
       "kbD14kWBkeHkfNkbF14kWDkeLkbNkbH14kWFkeLkbPkbJ13jzDkePkbL13jzFkePkbN14jzHkeTkg3kbP14jzJke",
       "Tkg5kbR14jzLkf1kg5kbT14jzNkf1kg7kbV14jzPkf5kc7kc114jzRkf5kc9kc313j_Tkf9kc513j_Vkf9kc714k",
       "W1kfDkgJkc914kW3kfDkgLkcB14kW5kfHkgLkcD14kW7kfHkgNkcF14kW9kfLkcNkcH14kWBkfLkcPkcJ12j_Tkg",
       "J12j_VkgP13kW1kh3kcP12kW3kcR13kW5kh5kcT22kW9kd713kWBkd9kd312kYDkh312kYFkh912kYHkhJ12kYJk",
       "hJ12kYLkdD21kW932lnHkdT13kWLki3kdP12kWNkdR13kWPki5kdT22kWTke713kWVke9ke312kZ5kiF12kZ7kiF",
       "12kZ5kiJ12kZ7kiJ12kZ9keD12RkiP12TkiP12VkeP12kXDkiJ12kXFkiP13kXHkiJkj313kXJkiLkj332kXPkf7",
       "13kXRkiTkf912kZTkj312kZVkj912ka1kjJ12ka3kjJ22Y2kjP12Y0kjP12XUkfP12kXLkjJ12kXNkjP13kXPkjJ",
       "kk313kXRkjLkk312kY5kj112kY7kj112kY1kg713kY3kjTkg912ka5kk312ka7kk912ka9kkJ12kaBkkJ12kaLkj",
       "F12lq9kkP12lqBkkP11luT33kYHkl3kgP12kYJkgR13kYLkl5kgT22kYPkh713kYRkh9kh312kbHklF12kbJklF1",
       "2kb1klJ12kb3klJ12kb5khD11lqH314114f51ktP41mjT12mkJlY1ZF2Jlc312Hlc5J2XJldBV26lf912ClfB126",
       "lfDXL21liN521lj1321lj7O21lkN221lkRR29lmH321lmN323lmT221ln1N2nY5loF221loJB2XVlp912nZ3lpB1",
       "2nZ1lpD12NlpF12NlpH323lpN123lpP323lpV123lq172BlqF12BlqH323lqN123lqP323lqV123lr1X32Jlt712",
       "9lt9129ltB127ltDXH2c7lwF12c7lwH12b1lwJ12b1lwL72ZFlx312ZFlx512ZFlx712ZFlx9XS1cjU11cjUXzI2",
       "2pw7XhG21aQ221aM221aI221aE221aA221a6221a2221ZU221ZQ221ZM221ZI221ZE321Z8221Z4221Z0721YI12",
       "3YI221YC123YC221Y6123Y6221Y0123Y0221XQ123XQN2aRAA219E21X5221X9221XD221XH221XL221XP221XT2",
       "21Y1221Y5221Y9221YD221YH321YN221YR221YV721ZD123ZD221ZJ123ZJ221ZP123ZP221ZV123ZV221a5123a",
       "5N2aRbL32FbR12FbT12FbV12Fc1421c9XoW21XshF11YfWP11XrZF11XsZL11YbZ511Yrj511Yoo111XisL11Xis",
       "N11YlxF11XppH11Ynu711Yly711YhnD11YXg911XyuJ11Xvj111XurD11XuXJ11Xqe711Ydn311Yb_J11YaZP11Y",
       "YpH11XwjL11XpwT11XloH11YrfH11YowD11YdXH11YZm511Xvl311Xjm311Yjz111YapD11XvrB11XtxV11YhbN1",
       "1XxqR11XumF11YjbR11YfX311YbxV11YZYT11XqbR11YqwD11YptD11Ypb111YgcN11YdbR11YZo311YXaN11Xyp",
       "511XvoT11XvjJ11XrqF11XnWB11XkyJ11XjpV11YWgT11X_xP11XzvP11Xwt911XpZL11Xji111XtcL11Ymc511Y",
       "jZT11X-k711XyiD11YZk711YWdP11XseB11Xnb311Ymd311YkkH11YdpH11Ybt511YbZT11X-XV11XznH11XnmB1",
       "1YpdV11XyiF11YptF11YpuH11X_pJ11XzvH11XwsD11Xnk711XszJ11YheN11YdrJ11XtbT11Yro911YktF11Yiq",
       "R11YYzJ11YX_311YpaN11YWcH11YqwB11YixP11YrrJ11YcfN11Yf_111X-aF11YowF11YmmR11YXcN11Xwo911X",
       "ti911YcxB11Xqy111YckJ11Yhd911XxeT11Ygz911YYX111YriH11YqWT11YpwV11YelH11X-f711XxmP11XtgL1",
       "1XpwT11YpeJ11YopR11YmWR11YjfB11YfxR11YauB11YWbL11XnzH11XlnP11Xjl111XjhL11YpkT11Yfi911YdX",
       "911XrYL11YjnJ11Yh_T11YhuV11YglD11YbcT11YaaJ11YYmL11X_yL11Xzw311XyoF11Xrd311XwgL11XqtD11X",
       "pb111Ypu911YplJ11Yok111YajD11XujR11XtlD11YjjH11YiwR11YhYH11Yc_D11X-sF11YZZ311Yri711YngV1",
       "1Yky511Yj_111YiuV11YY_L11YYq911XzX911XysJ11XptP11XnhN11XncL11XmvN11YrYJ11YWWF11XqW511Xnl",
       "V11YijF11Yrp711Yqk111YkyR11YktR11YgY911YdxP11YZ_311YXtT11XwiB11XqqD11XjZD11YfpP11XnvF11Y",
       "ppR11YfaP11YezB11YceH11YboT11YYy511YYd711YWs511X-hT11Xmt311Yqc711Yhw711XnrL11YqwH11YkhN1",
       "1Yb-N11XrgP11YjaP11Yif911Yey511YZb711XnrB11Ypx711YoyT11YktJ11YfyP11Yff511YepJ11YclR11YYz",
       "R11YYW511XzcP11XunF11XumD11XqXP11XnmF11YpgN11Ybp311YoyV11YaXR11YYrD11Xv_B11XnqR11XkvL11X",
       "jr711YfbP11YcYJ11XyWR11X_oN11X_jF11X-sD11YZpJ11Yas311Xtg711YrpP11XxiF11Ypy911Yp_H11YjrL1",
       "1YhoT11X-oP11YldT11YckD11Yfr311XriN11XuxN11XnxN11XudT11YjpF11YqiN11YoaP31YmxB21YfvR31YqZ",
       "D11YZkN11YXqP11YWjN11YWhL11YWh911YWeN11XniB11X-rT11Xzc121XwWR21XtoJ31Xq-P11XqoH41XmpL11X",
       "moT11Xmm711XkdH11XqqV11XntF11Yre311YqqJ11Yqk911YpsJ11YpqV11Ypk711YofH11YoZ111YnyV11Ym_H1",
       "1Ymv311YkzD11YkyR11YiwH11YijB11Yih111YiaR11Ygl311YgbV11Yfx311YexT11YciR11YcYN11Ybo911Yaj",
       "J11YaXR11YZYF11YWxJ11YWmR11YWm711YWmB11YWlT11YWlJ11YWl711YWi911YWi911YWX711X_z711X_fB11X",
       "-c511X-aT11X-XF11XzkF11XzbB11XycT11Xx-711Xx-911XxWF11XuqV11XuiL11Xts111XtoJ11Xsv111XsrP1",
       "1XrgV11XrYT11Xnu911XncJ11XnYT11Yi_B11bae411Xyb931YsaJ11YqhN11YqmJ11Yrl511YqoT11Yql911Ypw",
       "T11YptP11YojL11Yoo711Yok111YofH11YnY311YmyJ11YmpJ11YmoL11YmXR11YlrH11YjwV11YjwJ11YjnL11Y",
       "jjF11YiwR11YipH11YitV11YilL11YioJ11YifH11YibF11YhiH11Yhd311YhZP11YgpJ11YgXP11YftL11YftF1",
       "1YfpR11YdnN11YdjN11YcrB11YbxP11YbyR11YbtF11YbdP11YaoR11YXlB11YacH11YZ-V11YZtB11YZYV11YYv",
       "N11YYsF11YYeD11YYeB11YXzN11YXyN11YXx711YXrT11YXsJ11YWzT11X__L11X_kP11X_Z511X-r711X-hN11X",
       "zt511XzgP11Xxs111Xxi911XvpN11Xut911Xup111Xuo311Xt_J11Xty311Xt-V11XtxL11XtxT11Xtz111XtuB1",
       "1XtpB11XsxH11XruJ11Xrb111XqoL11XqaT11XoaJ11Xn-711Xnt311XnkR11XniL11XnhV11Xnf111XlxL11Xjp",
       "311astM11ast811aym811Y_p911YzhL11YzfL11bht811bm_K11cX_O11Xjv911XjqLY42Zwq7ZwsH22ZwoPZwsF",
       "B2Zwq1ZwsH12Zwq3ZwsH13Zwq5ZwsVZwsL13Zwq7Zwt1ZwsL12ZwrRZwtD12ZwrTZwtD12ZwrVZwt712ZwrVZwt9",
       "12ZwrVZwtB12ZwrVZwtD12ZwrVZwtF12ZwrVZwtH12ZwrVZwtJ22ZwrVZwtN12ZwrVZwtP12ZwrVZwtR12ZwrVZw",
       "tT12ZwrVZwtV22ZwrVZwu322ZwrVZwu712ZwrVZwu922ZwrVZwuD12ZwrVZwuF22ZwrVZwuJ12ZwrVZwuL12ZwrV",
       "ZwuN12ZwrVZwuP12ZwrVZwuR12ZwtBZwv312ZwtLZwuP12Zwt3ZwuR12ZwsJZwuTYpR2IaXi3R2JaXjPYrM21Y02",
       "21XSF2BUa326D126FmS27P129MXN21aC221ZC925Z8321ZGXK255229T12B2dJ231125N2291dS23L123NxT25Fn",
       "_9255127E129712A912D913FFD13H4F13JJFZY021112B313D55u_K2DE12DC13FAS13H8S13J6S13L4S13N2SYN",
       "23bB123bD137bFaT137bHaV13BbJaV13BbLb1Yfo01gqy511gqyH11gqy111Zxk111gqg711gqbD11gqaL11gqW9",
       "11gpuR11gpsV11gpo511gppN11hXsR11Zuz511gpi111gphL11gpgN11gpfJ11ZvlB11hXrJ11gpgP11gpeF11Zv",
       "iL11gpdV11gpd711gqqP11gpcR11gpcB11XpZP11gpYF11gpXL11hXpV11go-911gozL11gowV11gowN11hXmT11",
       "gorR11gorP11goq511gooR11goo711goo711gon711gok511gojN11goj711gohN11goh511goh311goh511goh7",
       "11ZtWF11gZy911gocN11gobF11Zsj911goaR11goaH11goZ911gnvR11goW911gn_B11gnzD11gnvR11gnqL11gn",
       "p311gnkV11gnk111gni111gni311gngR11gnfP11gnfB11gneF11gmp911gnaB11gmpB11gm_P11gmzL11gpaH11",
       "gls511gme711gmbT11gmaD11gmiJ11gmY711gmYB11glwN11Znt911glsF11gls711glrB11glq511glpN11gllP",
       "11ZmxF11ZmtD11gldB11glaF11glZP11gleP11gk_V11hWtH11hWsN11gks111gkoN11gkoP11Zlg711gkgJ11gk",
       "fB11gkeF11gkdP11ZkrH11gkd511gkcP11gio111gkb511hWl911gkXD11gkWJ11gjxH11gj-P11ZjfD11gjpH11",
       "ZjfD11gjmV11gjn711gjm711gjfV11gjfV11hWb711gjeD11gjbP11gjaH11gjXR11hWYB11ZhmB11hWWR11gizL",
       "11gizH11gizD11giy711XglP11giv311ZgrV11Zgs111fxf311git311git511g_yT11ZYzT11YhhR11gipD11gi",
       "oT11g_xF11gim311giiV11giiD11gigB11giXT11g_sD11g_uB11giWT11ZeyV11ghzR11ghrR11ghrL11ghrJ11",
       "ghrP11ghoV11ghnP11ghlJ11ghmH11ghlT11ghj111ghhR11ghhL11ghg311ghfF11ghbD11ghW711gg-311ggsD",
       "11ZcwN11ggtN11ggxR11ggr511ggpH11ggjH11ZciP11ggfP11gglL11ggnF11g_f711ggbJ11ggaB11ggYF11gg",
       "aT11g_bL11gftH11gfrP11ZahV11gfkF11gez711gfe711g-x911gfZR11g-yF11g--P11gppV11gppR11gez711",
       "gfZH11fyYH11gwlR11gey111gexR11gexH11getP11geuH11ZYnJ11g-v911gek911gerL11geeT11gebP11ZYdB",
       "11gebB11geiB11gdz311g-qJ11gdwB11gdqB11gdlV11gda511ZXaH11gdX311g-jB11gcyR11ZWaH11gcvP11g-",
       "g711gcu111gcr911gcpL11gcpL11Y_cJ11Zj-P11Y-_T11gcgN11Y-ZT11gcZP11gcYV11gcfD11gb-H11gby311",
       "gbuJ11gby111gbvJ11gbuN11gbtV11Yz-F11gbz511gbjH11gbfL11gzzD11gbZV11gba911YzZN11gbn911gaw1",
       "11Yyx311Yyu511gaqN11gajJ11galB11galJ11gztV11gaiP11gafL11gag311gacP11Zv_B11gZzD11YxhJ11gZ",
       "u311Ywt711gZlF11gZkN11gZj311YvnL11gZg711gZeV11Yu_111Yun511gYwR11gYvR11gzdR11gYuB11gzd711",
       "gzd911gYkD11gYj511gYhT11gYgN11gYcF11gzXF11gYWV11YslT11gX_F11Ysg911gXyF11ZhvJ11gXoJ11YqvJ",
       "11Yqu711YqlH11gyq311gypD11gXaN11YqaR11YqaV11YqYJ11YqX111gXYD11gXYD11gXYF11gW_R11gymV11gW",
       "xT11gym911gyhB11YooV11gWlV11gWi511gWe711gycR11YnoN11f__P11YnhJ11YneV11f_yD11f_sN11gyYH11",
       "f_nH11f_mV11f_mN11YlzV11YlhB11YlhD11f_d111gxrR11YkxB11f-vN11f-vJ11gxpP11Ykk911f-f711gxiD",
       "11f-dV11f-eB11f-cJ11Yi-911f-WH11gxcN11fzwD11fzsP11fzoL11gxZP11YhqJ11YhoN11gxXL11YhfN11fy",
       "_N11YhZH11fy-511fytT11fyt911Ygg111YgbH11fynP11YfzB11fymT11ZZY111gwwN11fyiV11fydV11gwtH11",
       "fyaD11glj111YezV11Yez511ZY_B11ZY-R11fxuJ11fxuF11fq-T11gwo511fxlR11fxm911fxl711gpjT11fxk3",
       "11fxk111fxjF11fxgV11YdbL11fxh511fxdN11fxZD11fw-R11fxdH11fwzV11fwxD11fwqF11fxaP11fwzD11fw",
       "zB11fwyD11YcsR11YcZJ11Ycj111gwdN11fwhD11fwhB11fwf711YY-111fwaF11Ybe111gwb111gwaR11Ya_T11",
       "YajT11gwaD11fvs511fvrF11fvqR11fvqP11fvmR11fvoV11fvgL11fvjF11fva311fvf711fvb311fvZF11gv-F",
       "11fuzT11fuxV11gvyH11fus511fus111YXrR11fukT11fukH11gvv511fuiT11hYmT11YWnP11YWcB11gvmT11gv",
       "mD11ftoT11ftk511ftaD11fstP11X-oL11fsoH11fsn711fshL11fsbV11XzgH11Zuz911fsWT11fsXT11fr-N11",
       "ZulT11frmJ11frgD11XwWR11Xv_711fqqR11fql311fqj511XvhD11fqiL11fpwT11fpn111fpn111fpsR11fo_3",
       "11fozD11Xs_511foc511gubJ11foZH11XsdJ11guWN11fnoV11gka311fnj311Xqh111XpzP11gtuJ11gtu511fn",
       "XJ11Xo_111gtqJ11XosD11fm_511fm_711fmzD11XoaL11fmnV11gtiV11fmjL11fmbR11fma711fmWH11gtZJ11",
       "XljH11fllF11fkyL11fkmT11gspT11gso111fkgF11Xiq311gsnH11XimP11XiW911Xhu511fjrJ11gshV11fjnR",
       "11fjnJ11fjn711fjmL11fjm911fjk111XgXP"]
  (Decomposition.readRows numbers.length 0 numbers).toArray

/-- Two code points and the one they compose into. -/
structure Composition where
  first : Nat
  second : Nat
  composite : Nat
  deriving DecidableEq

/-- Reads the rows of the composition table: the first code point as the distance from the row
before, the second and the composite. -/
def Composition.readRows (last : Nat) : List Nat → List Composition
  | gap :: second :: composite :: rest =>
    ⟨last + gap, second, composite⟩ :: readRows (last + gap) rest
  | _ => []

/-- The pairs that compose, in ascending order of the first and then the second code point. -/
def compositionTable : Array Composition :=
  let numbers := Packed.numbers
      ["XSvOepE1vOep01vOepF3u0c00u1c10u2c20u3c30u4e00u6e20u7n60u8c40u9dr20uAc50uCkD0uFm00uHm20v3",
       "dr00v5dm00v8e41u7dm20v3dm40vHdm61u1e60u2e80u7eA0uCeC0v7c71u7dmA0uCeE0v3dmC0v7dmG0vDdmI0v",
       "HdmE1u0c80u1c90u2cA0u3drS0u4eI0u6eK0u7eM0u8cB0u9drQ0uCeQ0uFm40uHm60v3drO0v7n80v8eO0vDdmO",
       "0vGdmQ1u7dmU1u1lK0u2eS0u4dn00u6eU0u7f00uCl60v7f21u2f40u7dn20u8dn60uCmU0v3dn40v7dn80vEdnA",
       "1u0cC0u1cD0u2cE0u3f80u4fA0u6fC0u7fG0u8cF0u9ds80uCkF0uFm80uHmA0v3dsA0v8fE0vGdnC1u2fK1u1dn",
       "G0uCl80v3dnI0v7fM0vHdnK1u1fP0uCfT0v3dnM0v7fR0vDdnS0vHdnQ1u1dnU0u7do00v3do21u0lO0u1g30u3c",
       "H0u7do40uCg70v3do60v7g50vDdoA0vHdo81u0cI0u1cJ0u2cK0u3cL0u4gC0u6gE0u7nE0u8cM0u9dsE0uBgG0u",
       "CkH0uFmC0uHmE0uRj00v3dsC0v8lA1u1doK0u7doM2u1gK0u7doO0uCgO0uFmG0uHmI0v3doQ0v7gM0vHdoU1u1g",
       "Q0u2gS0u7dp00uCh00v3dp20v6mO0v7gU1u7dpA0uCh40v3dpC0v6mQ0v7h20vDdpG0vHdpE1u0cP0u1cQ0u2cR0",
       "u3h80u4hA0u6hC0u8cS0u9dt60uAhE0uBhG0uCkJ0uFmK0uHmM0uRjF0v3dt40v4dpI0v8hI0vDdpM0vGdpK1u3d",
       "pS0v3dpU1u0dq00u1dq20u2hK0u7dq60u8dq40v3dq81u7dqA0u8dqC1u0dtI0u1cT0u2hM0u3dtO0u4nI0u7dqE",
       "0u8hO0u9dtM0v3dtK1u1hP0u2dqG0u7hR0uChT0v3dqI0vHdqK7u0d00u1d10u2d20u3d30u4e10u6e30u7n70u8",
       "d40u9dr30uAd50uCkE0uFm10uHm30v3dr10v5dm10v8e51u7dm30v3dm50vHdm71u1e70u2e90u7eB0uCeD0v7d7",
       "1u7dmB0uCeF0v3dmD0v7dmH0vDdmJ0vHdmF1u0d80u1d90u2dA0u3drT0u4eJ0u6eL0u7eN0u8dB0u9drR0uCeR0",
       "uFm50uHm70v3drP0v7n90v8eP0vDdmP0vGdmR1u7dmV1u1lL0u2eT0u4dn10u6eV0u7f10uCl70v7f31u2f50u7d",
       "n30u8dn70uCmV0v3dn50v7dn90vEdnB0vHdqM1u0dC0u1dD0u2dE0u3f90u4fB0u6fD0u8dF0u9ds90uCkG0uFm9",
       "0uHmB0v3dsB0v8fF0vGdnD1u2fL0uClG1u1dnH0uCl90v3dnJ0v7fN0vHdnL1u1fQ0uCfU0v3dnN0v7fS0vDdnT0",
       "vHdnR1u1dnV0u7do10v3do31u0lP0u1g40u3dH0u7do50uCg80v3do70v7g60vDdoB0vHdo91u0dI0u1dJ0u2dK0",
       "u3dL0u4gD0u6gF0u7nF0u8dM0u9dsF0uBgH0uCkI0uFmD0uHmF0uRj10v3dsD0v8lB1u1doL0u7doN2u1gL0u7do",
       "P0uCgP0uFmH0uHmJ0v3doR0v7gN0vHdoV1u1gR0u2gT0u7dp10uCh10v3dp30v6mP0v7gV1u7dpB0u8dqN0uCh50",
       "v3dpD0v6mR0v7h30vDdpH0vHdpF1u0dP0u1dQ0u2dR0u3h90u4hB0u6hD0u8dS0u9dt70uAhF0uBhH0uCkK0uFmL",
       "0uHmN0uRjG0v3dt50v4dpJ0v8hJ0vDdpN0vGdpL1u3dpT0v3dpV1u0dq10u1dq30u2hL0u7dq70u8dq50uAdqO0v",
       "3dq91u7dqB0u8dqD1u0dtJ0u1dT0u2hN0u3dtP0u4nJ0u7dqF0u8dV0u9dtN0uAdqP0v3dtL1u1hQ0u2dqH0u7hS",
       "0uChU0v3dqJ0vHdqLXEu0d_D0u1y50w2d-1Qu0dr60u1dr40u3drA0u9dr82u4kU1u1lQ1u1lS0u4l21u1dm83u0",
       "ds00u1drU0u3ds40u9ds25u1dnE5u0dsI0u1dsG0u3dsM0u9dsK1u1doC0u4nC0u8doE1u4nA2u1lU4u0kR0u1kN",
       "0u4kL0uCkP6u0dr70u1dr50u3drB0u9dr92u4kV1u1lR1u1lT0u4l31u1dm93u0ds10u1drV0u3ds50u9ds35u1d",
       "nF5u0dsJ0u1dsH0u3dsN0u9dsL1u1doD0u4nD0u8doF1u4nB2u1lV4u0kS0u1kO0u4kM0uCkQ6u0drG0u1drE0u3",
       "drK0u9drI1u0drH0u1drF0u3drL0u9drJFu0dmK0u1dmM1u0dmL0u1dmNXPu0doG0u1doI1u0doH0u1doJDu7dp4",
       "1u7dp55u7dp61u7dp77u1dpO1u1dpP1u8dpQ1u8dpRKu7dqRX1u0dsS0u1dsQ0u3dt00u9dsU0v3dt21u0dsT0u1",
       "dsR0u3dt10u9dsV0v3dt3Eu0dtA0u1dt80u3dtE0u9dtC0v3dtG1u0dtB0u1dt90u3dtF0u9dtD0v3dtH7uClEXJ",
       "u4lC1u4lDXRu4l01u4l11u6dmS1u6dmT5u4nG1u4nHZ3uClFdVu0dzQ0u1y60u4dzP0u6dzO0uJdu80uKdu90w5d",
       "zS4u0d-80u1y80uJduO0uKduP2u0d-A0u1y90uJdv80uKdv90w5d-C2u0d-Q0u1yA0u4d-P0u6d-O0u8zA0uJdvO",
       "0uKdvP6u0d_O0u1yC0uJdw80uKdw92uKd_C4u0d_A0u1yE0u4d_90u6d_80u8zB0uKdwP4u0d_Q0u1yF0uJdx80u",
       "Kdx90w5d_S3w5dzK2w5d-43u0dxG0u1zC0u4dzH0u6dzG0uJdu00uKdu10w2dzM0w5dzJ4u0dxI0u1zD0uJduG0u",
       "KduH2u0dxK0u1zE0uJdv00uKdv10w2d-60w5d-32u0dxM0u1zF0u4d-H0u6d-G0u8-A0uJdvG0uKdvH0w2d-M6u0",
       "dxO0u1-C0uJdw00uKdw12uJd_40uKd_54u0dxQ0u1-D0u4d_10u6d_00u8-B0uJdwG0uKdwH0w2d_64u0dxS0u1-",
       "E0uJdx00uKdx10w2d_M0w5d_J1u0d-I0u1yG0w2d-N1u0d_20u1zG0w2d_73w5d_K4u1-J0u8-KXKu8XW7Au6XcG",
       "0u8XcI3u1XW32u0XW00u6XcM0u8XW11u6Xc10u8XcS1u8XcU1u0XWD0u4Xd20u6XWP0u8Xd42u1XWC4u8Xd65u4X",
       "dE0u6XWE0u8XdG0uBXdI4u8XdK4u8XdO2u8XdC3u6XcH0u8XcJ3u1XYJ2u0XYG0u6XcN0u8XYH1u6Xc20u8XcT1u",
       "8XcV1u0XYT0u4Xd30u6XXP0u8Xd52u1XYS4u8Xd75u4XdF0u6XYU0u8XdH0uBXdJ4u8XdL4u8XdP2u8XdD9u8XYN",
       "UuFXZM1uFXZNZ3u8XcQ1u8XcRFu8XdA1u8XdBfUXoJXn20XoKXn30XoLXn5X1XoKXn42XoKXn6ZNXoKXs2HXoKXs",
       "J3XoKXs0oJYfSYf98YfSYfH3YfSYfKaKYjUYkB0YkNYkCi0YvUYwB0YwMYw80YwNYwCYBY-NYyKXKYzUY-A0Y-NY",
       "-C1YzUY-BZVZYMZY8ZPZcLZc07Zc2ZcA0ZcLZc70ZcMZc84ZcLZcBZSZfUZgA0ZgNZgC1ZfUZgBaIZkAZkQ0ZkFZ",
       "kS0ZkVZkU3ZkAZkTo9aXEaX6Yt0cvLcu62cvLcu82cvLcuA2cvLcuC2cvLcuE4cvLcuIX9cvLcvR2cvLcvT2cvLc",
       "w01cvLcw13cvLcw3tKu4dnO1u4dnPX3u4doS1u4doT7u7dp81u7dp9XTu2drC0u6drM1u2drD0u6drNNu2ds61u2",
       "ds7Ju2dsO1u2dsPXJu0du20u1du40w2du60w5dy01u0du30u1du50w2du70w5dy11w5dy21w5dy31w5dy41w5dy5",
       "1w5dy61w5dy71u0duA0u1duC0w2duE0w5dy81u0duB0u1duD0w2duF0w5dy91w5dyA1w5dyB1w5dyC1w5dyD1w5d",
       "yE1w5dyF1u0duI0u1duK1u0duJ0u1duL7u0duQ0u1duS1u0duR0u1duT7u0dv20u1dv40w2dv60w5dyG1u0dv30u",
       "1dv50w2dv70w5dyH1w5dyI1w5dyJ1w5dyK1w5dyL1w5dyM1w5dyN1u0dvA0u1dvC0w2dvE0w5dyO1u0dvB0u1dvD",
       "0w2dvF0w5dyP1w5dyQ1w5dyR1w5dyS1w5dyT1w5dyU1w5dyV1u0dvI0u1dvK0w2dvM1u0dvJ0u1dvL0w2dvN7u0d",
       "vQ0u1dvS0w2dvU1u0dvR0u1dvT0w2dvV7u0dw20u1dw41u0dw30u1dw57u0dwA0u1dwC1u0dwB0u1dwD7u0dwI0u",
       "1dwK0w2dwM1u0dwJ0u1dwL0w2dwN8u0dwR0u1dwT0w2dwV7u0dx20u1dx40w2dx60w5dz01u0dx30u1dx50w2dx7",
       "0w5dz11w5dz21w5dz31w5dz41w5dz51w5dz61w5dz71u0dxA0u1dxC0w2dxE0w5dz81u0dxB0u1dxD0w2dxF0w5d",
       "z91w5dzA1w5dzB1w5dzC1w5dzD1w5dzE1w5dzF1w5dzI4w5d-28w5d_IXQw5dzN9u0d-D0u1d-E0w2d-F7w5d-7X",
       "Gw5d_N8u0d-T0u1d-U0w2d-ViIvOeiQ2vOeiR2vOejEXSvOekD2vOekF2vOekEXFvOem45vOem93vOemCOvOen42",
       "vOen6NvOeo17vOeo42vOeo73vOeo95vOepDKvOep23vOepG1vOepHDvOepK1vOepL3vOepO1vOepP3vOeq01vOeq",
       "11vOet01vOet15vOeq41vOeq53vOeq81vOeq9AvOet21vOet3GvOerC6vOerD1vOerE2vOerF7vOetA1vOetB1vO",
       "etC1vOetDZiHiaPiaK5iaPiYC2iaPiYE2iaPiYG2iaPiYI2iaPiYK2iaPiYM2iaPiYO2iaPiYQ2iaPiYS2iaPiYU",
       "2iaPiZ02iaPiZ23iaPiZ52iaPiZ72iaPiZ97iaPiZG0iaQiZH3iaPiZJ0iaQiZK3iaPiZM0iaQiZN3iaPiZP0iaQ",
       "iZQ3iaPiZS0iaQiZTX2iaPiaU9iaPidK5iaPibC2iaPibE2iaPibG2iaPibI2iaPibK2iaPibM2iaPibO2iaPibQ",
       "2iaPibS2iaPibU2iaPic02iaPic23iaPic52iaPic72iaPic97iaPicG0iaQicH3iaPicJ0iaQicK3iaPicM0iaQ",
       "icN3iaPicP0iaQicQ3iaPicS0iaQicTKiaPidN1iaPidO1iaPidP1iaPidQBiaPidUXrcLu7YXk98u7YXl4YrVYa",
       "bQYaaQ2YabQYaaSAYabQYabBaCYaf7YafE1Yaf7YafFmLYavUYawB0YawNYawCXRYa-9Yay32YazRYay57Ya-2Ya",
       "yE5Ya-9YayHXIYazOYa-70Ya-2Ya-50Ya-9Ya-8dNYbbGYbbS0YbbQYbbR0YbbTYbbUdVYbjFYbjQ1YbjFYbjRxS",
       "YcfGYcfOn_9YueUYuf10YueVYuf30Yuf0Yuf50Yuf9Yuf23YueVYuf60Yuf0Yuf81YueVYuf77YueVYuf4ZXQYxh",
       "7Yxh94Yxh7Yxh82Yxh7YxhA"]
  (Composition.readRows 0 numbers).toArray

end ScopedAuth.Unicode
