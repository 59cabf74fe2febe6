import ScopedAuth.Unicode.RangeTable

/-!
# Canonical combining classes

The property `Canonical_Combining_Class`, which orders the marks after one base character.
-/

namespace ScopedAuth.Unicode

/-- The code points whose combining class is not zero, each run with its class. -/
def combiningTable : RangeTable Nat := RangeTable.ofPackedMap
  ["u0Kd600d803cS00d800cO04cS01cA03cS01cA0AcS04103cS07d600dG00d602cS02d601cS12d603cS00d600d801cS",
   "00d600d901dA00d901dA00d90Cd6eJ4d6e90cS03d600cS02d600cU00cS05d605cS01d600cS01d600cU00d400d600",
   "A00B00C00D00E00F00G00H00I01J00K00L00M10N10O00P10d600cS10IY87d600U00V00X0XG0R00S00T00U00V00X0",
   "00X100X201d601cS04d600cS01d600cSG0X3Z56d623d600cS00d621d610cS01d600cSX30X4U0d600cS01d600cS01",
   "d602cS00d601cS00d600cS02d600cS00d600cS00d600cS00d600cS01d6b06d600cS00d690cSO3d618d612d614d6X",
   "B2cSXR1d602cS03d6XA4d604cS0Dd610cS01d600cS01d600cS02d602cS00R00S00T02d600cS01d601cS04d6XS07G",
   "0930d600cS01d6Z707G09XG0d6XT07G09ZE07G09ZE07G09ZV09ZE07G0970YK00YRZ507G09ZD19G09ZS09ZD1Z7009",
   "D3ZBZC1ZM009D3ZQYC1cSR0cS10cS10cOXN0a100a210a453a220a211d600911d6XU0cSZG07119YI0cSsF2d6zK19U",
   "09aT09A0d6cB0d4aF0cU00d600cScR0d600cSY709K7d620cSXG4d605cS01d600cS11cS01d601cS04d600cS0Hd600",
   "cS25d600cS03d600dAY807F09X60d600cS06d6XM19XQ07B19Y307aO2d610104cS01d603cS00d616140cS60d631d6",
   "c61d600cS06d600cS01d600dA00cM00cS00cA0X4d600d801d400cS00cQ00d600d900cS00d600cSsG1d601103d602",
   "101d640d631100d600cS00d601103cS00d6Y_U2d6aD09Z0Vd6nA0cQ00d400d800cU01d0Z918zkK0d649d6X01d6YG",
   "1d6eK09X509aN09RHd6XP2cSX509YV07C09dF0d611d600cS21d651d610d6XK09dM09pvG0Qu16d606cS01d6-D0cSd",
   "20cSaL4d6XqI0cS10d6X80d600100cS409b50d600cSnT3d6Y14d6fT1d6YD1cS12cSY61cS02d600cS00d603cSXH0d",
   "600cS00d600cSc009X909E09XP09007Y52d6XG19XU07YC09907ZA09007bI07009YG17G09O6d634d6YP29ZH09307N",
   "0d6Z309007dR09007ZU09ZM09007ZJ09eD09007e219407aS09YJ09I09YH09j509e207119YH09j919mlC09Yk041XR",
   "6d6XbP16pbC01bc61cO02130d204cO87cS24d601cSU3d6aK2d6ZjR6d61Gd626d611d614d6Z40d6b06d6hN0d6XT3d",
   "6lS1d800cS00d6dU0d600cSdJ0d620d671d650d6kQ6cSZD5d6007"]

/-- The canonical combining class of a character; zero for a base character. -/
def combiningClass (c : Char) : Nat :=
  (combiningTable.find? c.toNat).getD 0

/-- The combining class of a virama, the mark that suppresses a vowel. -/
def viramaClass : Nat := 9

end ScopedAuth.Unicode
