import Tiri.Layout.Basic

/-!
# Points and rectangles

Smithay's geometry, in whole pixels or in logical ones.
-/

namespace Tiri.Utils

variable {K : Type}

structure Point (K : Type) where
  x : K
  y : K
  deriving DecidableEq

structure Size (K : Type) where
  w : K
  h : K
  deriving DecidableEq

structure Rectangle (K : Type) where
  loc : Point K
  size : Size K
  deriving DecidableEq

namespace Point

instance [Add K] : Add (Point K) := ⟨fun p q => ⟨p.x + q.x, p.y + q.y⟩⟩

instance [Sub K] : Sub (Point K) := ⟨fun p q => ⟨p.x - q.x, p.y - q.y⟩⟩

def upscale [Mul K] (p : Point K) (scale : K) : Point K := ⟨p.x * scale, p.y * scale⟩

def downscale [Div K] (p : Point K) (scale : K) : Point K := ⟨p.x / scale, p.y / scale⟩

def toF64 (p : Point ℤ) : Point ℚ := ⟨p.x, p.y⟩

def toI32Round (p : Point ℚ) : Point ℤ := ⟨Layout.roundHalfAway p.x, Layout.roundHalfAway p.y⟩

end Point

namespace Size

def toF64 (s : Size ℤ) : Size ℚ := ⟨s.w, s.h⟩

def toI32Round (s : Size ℚ) : Size ℤ := ⟨Layout.roundHalfAway s.w, Layout.roundHalfAway s.h⟩

def toI32Ceil (s : Size ℚ) : Size ℤ := ⟨⌈s.w⌉, ⌈s.h⌉⟩

end Size

namespace Rectangle

def contains [Add K] [LE K] [LT K] [DecidableLE K] [DecidableLT K] (r : Rectangle K)
    (p : Point K) : Bool :=
  r.loc.x ≤ p.x && p.x < r.loc.x + r.size.w && r.loc.y ≤ p.y && p.y < r.loc.y + r.size.h

def overlaps [Add K] [LT K] [DecidableLT K] (r s : Rectangle K) : Bool :=
  r.loc.x < s.loc.x + s.size.w && s.loc.x < r.loc.x + r.size.w &&
    r.loc.y < s.loc.y + s.size.h && s.loc.y < r.loc.y + r.size.h

/-- `i32::MAX`. -/
def i32Max : ℤ := 2147483647

/-- `saturating_add`, of what is not negative. -/
def saturatingAdd (a b : ℤ) : ℤ := min (a + b) i32Max

/-- `overlaps` of whole pixels, whose sums saturate. -/
def overlapsI32 (r s : Rectangle ℤ) : Bool :=
  r.loc.x < saturatingAdd s.loc.x s.size.w && s.loc.x < saturatingAdd r.loc.x r.size.w &&
    r.loc.y < saturatingAdd s.loc.y s.size.h && s.loc.y < saturatingAdd r.loc.y r.size.h

end Rectangle

end Tiri.Utils
