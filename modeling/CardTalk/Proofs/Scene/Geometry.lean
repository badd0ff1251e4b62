/-
Places that are written and read.

The edges, the corner and the middle of an object are computed from its place, and writing one of
them changes the coordinates that it is computed from and nothing else.  Where a length is taken
from the written number, reading adds the same length again; so what is read is what was written,
unless the difference had to be rounded.  The middle is written in two steps, and only between
these can an attempt break off that has begun.
-/
import CardTalk.Proofs.Number.Rounding
import CardTalk.Proofs.Scene.Writing

namespace CardTalk

namespace Number

/-- The difference of two numbers is a floating-point number, so that nothing is rounded when it
is computed. -/
def Exact (n w : Float) : Prop :=
  ∃ a b d, value? n = some a ∧ value? w = some b ∧ value? d = some (a - b)

theorem Exact.text_sub_add {n w : Float} (h : Exact n w) : text (n - w + w) = text n := by
  obtain ⟨a, b, d, hn, hw, hd⟩ := h
  have hdifference : value? (n - w) = some (a - b) := value?_sub hn hw hd
  have hsum : value? n = some (a - b + b) := by rw [hn, sub_add_cancel]
  exact text_of_value? (value?_add hdifference hw hsum) hsum

/-- What is shown of a number that a length was taken from and added to again. -/
structure Restores (n w : Float) (shown : Text) : Prop where
  computed : shown = text (n - w + w)
  exact : Exact n w → shown = text n

theorem restores_text (n w : Float) : Restores n w (text (n - w + w)) :=
  ⟨rfl, Exact.text_sub_add⟩

end Number

namespace Quantity

theorem float_minus {n : Float} {q r : Quantity} (h : (float n).minus q = .ok r) :
    ∃ w, q.toFloat = .ok w ∧ r = .float (n - w) := by
  cases hq : q.toFloat with
  | error f =>
      rw [minus, hq] at h
      exact nomatch h
      exact nofun
  | ok w =>
      rw [minus, hq] at h
      · exact ⟨w, rfl, (Except.ok.inj h).symm⟩
      · exact nofun

theorem float_plus {n w : Float} {q : Quantity} (h : q.toFloat = .ok w) :
    (float n).plus q = .ok (.float (n + w)) := by
  rw [plus, h]
  · rfl
  · exact nofun

end Quantity

namespace Property

open Number (leading? Restores restores_text)

theorem lessHalf_float {a : Float} {q r : Quantity} (h : lessHalf (.float a) q = .ok r) :
    ∃ w, q.half = .ok (.float w) ∧ r = .float (a - w) := by
  unfold lessHalf at h
  cases hq : q.half with
  | error f =>
      rw [hq] at h
      exact nomatch h
  | ok s =>
      obtain ⟨w, rfl⟩ := Quantity.half_float hq
      rw [hq] at h
      exact ⟨w, rfl, (Except.ok.inj h).symm⟩

theorem half_of_lessHalf {a : Float} {q : Quantity} {f : Fault}
    (h : lessHalf (.float a) q = .error f) : q.half = .error f := by
  unfold lessHalf at h
  cases hq : q.half with
  | error g =>
      rw [hq] at h
      exact h
  | ok s =>
      obtain ⟨w, rfl⟩ := Quantity.half_float hq
      rw [hq] at h
      exact nomatch h

namespace Geometry

/-- Writing the property moves an object across. -/
def movesAcross : Geometry → Bool
  | left | right | topLeft | location => true
  | top | bottom | width | height => false

/-- Writing the property moves an object up or down. -/
def movesDown : Geometry → Bool
  | top | bottom | topLeft | location => true
  | left | right | width | height => false

/-- Between two places nothing has changed that does not belong to a property. -/
structure Leaves (g : Geometry) (r r' : Rect) : Prop where
  x : ¬g.movesAcross → r'.x = r.x
  y : ¬g.movesDown → r'.y = r.y
  width : g ≠ .width → r'.width = r.width
  height : g ≠ .height → r'.height = r.height

/-- What is shown of a property of a place after a value has been given to it. -/
def Shows (g : Geometry) (r : Rect) (given shown : Text) : Prop :=
  match g with
  | left | top | width | height => ∃ n, leading? given = some n ∧ shown = Number.text n
  | right => ∃ n w, leading? given = some n ∧ r.width.toFloat = .ok w ∧ Restores n w shown
  | bottom => ∃ n h, leading? given = some n ∧ r.height.toFloat = .ok h ∧ Restores n h shown
  | topLeft => ∃ x y, point? given = some (.float x, .float y) ∧
      shown = Number.text x ++ ',' :: Number.text y
  | location => ∃ x y w h across down, point? given = some (.float x, .float y) ∧
      r.width.half = .ok (.float w) ∧ r.height.half = .ok (.float h) ∧
      Restores x w across ∧ Restores y h down ∧ shown = across ++ ',' :: down

/-- What a place is left as when a property of it is written. -/
inductive Written (g : Geometry) (r : Rect) (given : Text) : Rect × Option Fault → Prop
  | made {r' : Rect} {shown : Text} (hleaves : g.Leaves r r') (hread : g.read r' = .ok shown)
      (hshows : g.Shows r given shown) : Written g r given (r', none)
  | failed (f : Fault) : Written g r given (r, some f)
  | halfway {x y : Float} {across : Quantity} {f : Fault} (hg : g = location)
      (hpoint : point? given = some (.float x, .float y))
      (hacross : lessHalf (.float x) r.width = .ok across) (hdown : r.height.half = .error f) :
      Written g r given ({ r with x := across }, some f)

variable {r : Rect} {g : Geometry} {given : Text} {written : Rect × Option Fault}

theorem written_location (h : location.write r given = some written) :
    Written location r given written := by
  obtain ⟨⟨x, y⟩, hpoint, hwritten⟩ := Option.bind_eq_some_iff.mp h
  obtain ⟨a, b, rfl, rfl⟩ := point?_floats hpoint
  rw [← Option.some.inj hwritten]
  cases hacross : lessHalf (.float a) r.width with
  | error f => exact .failed f
  | ok across =>
      cases hdown : lessHalf (.float b) r.height with
      | error f => exact .halfway rfl hpoint hacross (half_of_lessHalf hdown)
      | ok down =>
          obtain ⟨w, hw, rfl⟩ := lessHalf_float hacross
          obtain ⟨k, hk, rfl⟩ := lessHalf_float hdown
          refine .made ⟨nofun, nofun, fun _ => rfl, fun _ => rfl⟩ ?_
            ⟨a, b, w, k, _, _, hpoint, hw, hk, restores_text a w, restores_text b k, rfl⟩
          show Rect.location _ = _
          unfold Rect.location
          rw [hw, hk]
          rfl

theorem write_written (h : g.write r given = some written) : Written g r given written := by
  cases g with
  | topLeft =>
      obtain ⟨⟨x, y⟩, hpoint, hwritten⟩ := Option.bind_eq_some_iff.mp h
      obtain ⟨a, b, rfl, rfl⟩ := point?_floats hpoint
      rw [← Option.some.inj hwritten]
      exact .made ⟨nofun, nofun, fun _ => rfl, fun _ => rfl⟩ rfl ⟨a, b, hpoint, rfl⟩
  | location => exact written_location h
  | left =>
      exact write_number h fun n hn =>
        .made ⟨nofun, fun _ => rfl, fun _ => rfl, fun _ => rfl⟩ rfl ⟨n, hn, rfl⟩
  | top =>
      exact write_number h fun n hn =>
        .made ⟨fun _ => rfl, nofun, fun _ => rfl, fun _ => rfl⟩ rfl ⟨n, hn, rfl⟩
  | width =>
      exact write_number h fun n hn =>
        .made ⟨fun _ => rfl, fun _ => rfl, nofun, fun _ => rfl⟩ rfl ⟨n, hn, rfl⟩
  | height =>
      exact write_number h fun n hn =>
        .made ⟨fun _ => rfl, fun _ => rfl, fun _ => rfl, nofun⟩ rfl ⟨n, hn, rfl⟩
  | right =>
      refine write_number h fun n hn => ?_
      cases hx : (Quantity.float n).minus r.width with
      | error f => exact .failed f
      | ok x =>
          obtain ⟨w, hw, rfl⟩ := Quantity.float_minus hx
          refine .made ⟨nofun, fun _ => rfl, fun _ => rfl, fun _ => rfl⟩ ?_
            ⟨n, w, hn, hw, restores_text n w⟩
          show ((Quantity.float (n - w)).plus r.width >>= Quantity.coordinate) = _
          rw [Quantity.float_plus hw]
          rfl
  | bottom =>
      refine write_number h fun n hn => ?_
      cases hy : (Quantity.float n).minus r.height with
      | error f => exact .failed f
      | ok y =>
          obtain ⟨k, hk, rfl⟩ := Quantity.float_minus hy
          refine .made ⟨fun _ => rfl, nofun, fun _ => rfl, fun _ => rfl⟩ ?_
            ⟨n, k, hn, hk, restores_text n k⟩
          show ((Quantity.float (n - k)).plus r.height >>= Quantity.coordinate) = _
          rw [Quantity.float_plus hk]
          rfl

end Geometry

end Property

end CardTalk
