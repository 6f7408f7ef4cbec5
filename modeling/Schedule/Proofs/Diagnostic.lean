import Mathlib.Tactic.Common
import Schedule.Diagnostic

/-! # What a diagnostic shows

For a place inside the text and a window that reaches back and ahead, a diagnostic shows the stretch
of the text that the window cuts out, and below it one caret under the place, with nothing but
spaces around it.
-/

namespace Schedule

/-- The characters of a text from one offset up to another. -/
def stretch (text : String) (start stop : Int) : String :=
  String.ofList ((text.toList.take stop.toNat).drop start.toNat)

/-- A line of spaces with one caret in it. -/
def caretLine (before after : Nat) : String :=
  String.ofList (List.replicate before ' ' ++ '^' :: List.replicate after ' ')

namespace Window

variable {window : Window} {index length size : Int}

/-- The window begins at the place or before it, at a distance that is cut off by the text. -/
theorem index_sub_start (window : Window) (index : Int) :
    index - window.start index = min index window.before := by
  unfold start
  omega

theorem start_le (back : 0 ≤ window.before) (inside : 0 ≤ index) :
    window.start index ≤ index := by
  unfold start
  omega

/-- The window does not end before the place. -/
theorem le_stop (ahead : 0 ≤ window.after) (nonneg : 0 ≤ length) (inside : index ≤ size) :
    index ≤ window.stop index length size := by
  unfold stop
  omega

end Window

namespace Diagnostic

variable {start stop index : Int}

/-- Before the caret there are spaces only. -/
theorem map_range_spaces {n place : Nat} (before : n ≤ place) :
    ((List.range n).map fun k => if k = place then '^' else ' ') = List.replicate n ' ' := by
  rw [List.eq_replicate_iff]
  refine ⟨by simp, fun c member => ?_⟩
  obtain ⟨k, inside, rfl⟩ := List.mem_map.mp member
  have lower : k < n := List.mem_range.mp inside
  rw [if_neg (by omega)]

theorem map_range_caret (before after : Nat) :
    ((List.range (before + (after + 1))).map fun n => if n = before then '^' else ' ') =
      List.replicate before ' ' ++ '^' :: List.replicate after ' ' := by
  have behind : ((List.range after).map fun n => if before + (n + 1) = before then '^' else ' ') =
      List.replicate after ' ' := by
    rw [List.eq_replicate_iff]
    refine ⟨by simp, fun c member => ?_⟩
    obtain ⟨n, _, rfl⟩ := List.mem_map.mp member
    rw [if_neg (by omega)]
  rw [List.range_add, List.map_append, map_range_spaces (Nat.le_refl before),
    List.range_succ_eq_map, List.map_map, List.map_cons, List.map_map, ← behind]
  congr 2
  exact if_pos (Nat.add_zero before)

/-- The caret line has one caret, at the place, also if the window ends there. -/
theorem pointer_eq (first : start ≤ index) (last : index ≤ stop) :
    pointer start stop index =
      List.replicate (index - start).toNat ' ' ++
        '^' :: List.replicate (stop - index - 1).toNat ' ' := by
  have shifted (n : Nat) : start + n = index ↔ n = (index - start).toNat := by omega
  unfold pointer
  simp only [shifted]
  rcases Int.lt_or_eq_of_le last with within | rfl
  · have width : (stop - start).toNat =
        (index - start).toNat + ((stop - index - 1).toNat + 1) := by omega
    rw [width, map_range_caret, if_neg (Int.not_le.mpr within), List.append_nil]
  · rw [if_pos (Int.le_refl index)]
    have none : (index - index - 1).toNat = 0 := by omega
    rw [none, List.replicate_zero, map_range_spaces (Nat.le_refl _)]

theorem snippet_eq (text : List Char) (start : Int) (forward : 0 ≤ stop) :
    snippet text start stop = (text.take stop.toNat).drop start.toNat := by
  unfold snippet
  rw [if_neg (Int.not_lt.mpr forward)]

/-- A diagnostic about a place inside the text: the message, what the window cuts out of the text,
and a caret as far from the left as the place is from the beginning of the window. -/
theorem render_eq {window : Window} {text : String} {length : Int} (message : String)
    (back : 0 ≤ window.before) (ahead : 0 ≤ window.after) (inside : 0 ≤ index)
    (within : index ≤ text.length) (nonneg : 0 ≤ length) :
    render window message text index length =
      message ++ "\n    " ++
        stretch text (window.start index) (window.stop index length text.length) ++ "\n    " ++
        caretLine (min index window.before).toNat
          (window.stop index length text.length - index - 1).toNat := by
  have first := Window.start_le back inside
  have last := Window.le_stop ahead nonneg within
  unfold render
  dsimp only
  rw [String.length_toList, snippet_eq _ _ (Int.le_trans inside last), pointer_eq first last,
    Window.index_sub_start]
  rfl

end Diagnostic

end Schedule
