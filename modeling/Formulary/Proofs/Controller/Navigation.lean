import Formulary.Proofs.Controller.Effect
import Mathlib.Data.List.Infix

/-!
# Going round the suggestions

The arrow keys go round the list of suggestions. The first press enters the list, `ArrowDown` at its
first suggestion and `ArrowUp` at its last one, and every further press goes one step on. So the place
of the highlight is told by how often each key was pressed and by the first press. What goes on in the
background meanwhile makes no difference as long as it leaves the list alone.
-/

namespace Formulary

namespace Editor

/-- The ways round the list of suggestions. -/
inductive Direction where
  | down | up
deriving DecidableEq, Repr

namespace Direction

def key : Direction → Key
  | down => .arrowDown
  | up => .arrowUp

def ofKey? : Key → Option Direction
  | .arrowDown => some down
  | .arrowUp => some up
  | .enter | .backspace | .escape => none

/-- Where a press puts the highlight. -/
def move : Direction → Nat → Option Nat → Nat
  | down => next
  | up => previous

/-- How far a press goes in a list that is entered. -/
def step : Direction → Int
  | down => 1
  | up => -1

/-- Where a press enters the list. -/
def entry : Direction → Int
  | down => 0
  | up => -1

theorem eq_key {k : Key} {d : Direction} (h : ofKey? k = some d) : k = d.key := by
  cases k <;> cases h <;> rfl

end Direction

/-- The place that presses lead to: one further for each `ArrowDown` and one back for each `ArrowUp`,
where an `ArrowDown` at first only enters the list. It is meant modulo the length of the list. -/
def place (presses : List Direction) : Int :=
  presses.count .down - presses.count .up - if presses.head? = some .down then 1 else 0

variable {e : Editor} {count i : Nat}

theorem place_singleton (d : Direction) : place [d] = d.entry := by
  cases d <;> rfl

theorem place_concat {presses : List Direction} (h : presses ≠ []) (d : Direction) :
    place (presses ++ [d]) = place presses + d.step := by
  rw [place, place, List.head?_append_of_ne_nil _ h, List.count_append, List.count_append]
  cases d <;> simp [Direction.step] <;> omega

theorem move_none (h : 0 < count) (d : Direction) :
    (d.move count none : Int) = d.entry % count := by
  cases d with
  | down => rfl
  | up =>
    have hlast : ((count - 1 : Nat) : Int) = -1 + count := by omega
    have hlt : -1 + (count : Int) < count := by omega
    calc ((count - 1 : Nat) : Int)
      _ = -1 + count := hlast
      _ = (-1 + count) % count := (Int.emod_eq_of_lt (by omega) hlt).symm
      _ = -1 % count := Int.add_emod_right ..

theorem move_some (h : i < count) (d : Direction) :
    (d.move count (some i) : Int) = (i + d.step) % count := by
  cases d with
  | down =>
    rw [Direction.move, next, if_pos h, Int.natCast_emod, Int.natCast_succ]
    rfl
  | up =>
    have hback : ((i + count - 1 : Nat) : Int) = i + -1 + count := by omega
    rw [Direction.move, previous, if_pos h, Int.natCast_emod, hback, Int.add_emod_right]
    rfl

/-- The highlight is where presses lead to, if there were any and there is a list to go round. -/
def Follow (count : Nat) (presses : List Direction) (highlighted : Option Nat) : Prop :=
  ((presses = [] ∨ count = 0) ∧ highlighted = none) ∨
    (presses ≠ [] ∧ ∃ i, highlighted = some i ∧ i < count ∧ (i : Int) = place presses % count)

variable {presses : List Direction} {highlighted : Option Nat}

theorem Follow.eq_some (h : Follow count presses highlighted) (hne : presses ≠ [])
    (hpos : 0 < count) : ∃ i : Nat, highlighted = some i ∧ (i : Int) = place presses % count := by
  rcases h with ⟨hnil | hzero, -⟩ | ⟨-, i, hi, -, hplace⟩
  · exact absurd hnil hne
  · omega
  · exact ⟨i, hi, hplace⟩

theorem Follow.eq_none (h : Follow count presses highlighted) (hzero : count = 0) :
    highlighted = none := by
  rcases h with ⟨-, hnone⟩ | ⟨-, i, -, hi, -⟩
  · exact hnone
  · omega

/-- One press more goes on from where the highlight is. -/
theorem Follow.concat (h : Follow count presses highlighted) (hpos : 0 < count) (d : Direction) :
    Follow count (presses ++ [d]) (some (d.move count highlighted)) := by
  have hlt : d.move count highlighted < count := by
    cases d with
    | down => exact next_lt hpos highlighted
    | up => exact previous_lt hpos highlighted
  refine Or.inr ⟨by simp, _, rfl, hlt, ?_⟩
  rcases h with ⟨hor, rfl⟩ | ⟨hne, i, rfl, hi, hplace⟩
  · obtain rfl : presses = [] := hor.resolve_right (Nat.pos_iff_ne_zero.mp hpos)
    rw [List.nil_append, place_singleton, move_none hpos]
  · rw [move_some hi, place_concat hne, hplace, Int.emod_add_emod]

/-- As long as the list stays, so does the highlight. -/
theorem highlighted_refilter (h : e.refilter.suggestions = e.suggestions) :
    e.refilter.highlighted = e.highlighted := by
  rw [refilter_eq] at h ⊢
  exact if_pos h

end Editor

namespace Controller

open Editor (Direction Follow place)

variable {c : Controller} {m : Move} {presses : List Direction}

/-- The press of an arrow key that a move is. -/
def Move.direction? : Move → Option Direction
  | .input _ (.key name) => (Key.ofName? name).bind Direction.ofKey?
  | _ => none

theorem Move.eq_press {d : Direction} (h : m.direction? = some d) :
    ∃ live, m = .input live (.key d.key.name) := by
  match m, h with
  | .input live (.key name), h =>
    obtain ⟨k, hname, hk⟩ := Option.bind_eq_some_iff.mp h
    exact ⟨live, by rw [Key.name_of_ofName? hname, Direction.eq_key hk]⟩

/-- Presses arrow keys one after the other, and tells of each press whether it was used. -/
def press (c : Controller) (live : Bool) : List Direction → Controller × List Bool
  | [] => (c, [])
  | d :: rest =>
    let (c, used) := c.handle live (.key d.key.name)
    let (c, more) := press c live rest
    (c, used :: more)

/-! ## One press -/

theorem handle_press_of_none (h : c.editor.suggestions = []) (live : Bool) (d : Direction) :
    c.handle live (.key d.key.name) = (c, false) := by
  have hmove : ∀ move, c.editor.moveHighlight move = { editor := c.editor } := by
    intro move
    simp [Editor.moveHighlight, h]
  have hreact : c.editor.react c.provider.peek (.key d.key.name) = { editor := c.editor } := by
    rw [Editor.react_key]
    cases d <;> exact hmove _
  simp [handle, hreact]

theorem handle_press (h : c.editor.suggestions ≠ []) (live : Bool) (d : Direction) :
    c.handle live (.key d.key.name) =
      ({ c with editor := { c.editor with
          highlighted := some (d.move c.editor.suggestions.length c.editor.highlighted) } }, true) := by
  have hmove : ∀ move, c.editor.moveHighlight move =
      { editor := { c.editor with
          highlighted := some (move c.editor.suggestions.length c.editor.highlighted) }
        consumed := true } := by
    intro move
    simp [Editor.moveHighlight, h]
  have hreact : c.editor.react c.provider.peek (.key d.key.name) =
      { editor := { c.editor with
          highlighted := some (d.move c.editor.suggestions.length c.editor.highlighted) }
        consumed := true } := by
    rw [Editor.react_key]
    cases d <;> exact hmove _
  simp [handle, hreact]

/-- A press is used exactly if there are suggestions, and changes nothing but the highlight. -/
theorem handle_press_cases (c : Controller) (live : Bool) (d : Direction) :
    ∃ highlighted, c.handle live (.key d.key.name) =
      ({ c with editor := { c.editor with highlighted } },
        decide (0 < c.editor.suggestions.length)) := by
  by_cases h : c.editor.suggestions = []
  · have hzero : ¬ 0 < c.editor.suggestions.length := by simp [h]
    exact ⟨c.editor.highlighted, by rw [handle_press_of_none h, decide_eq_false hzero]⟩
  · have hpos : 0 < c.editor.suggestions.length := List.length_pos_iff.mpr h
    exact ⟨_, by rw [handle_press h, decide_eq_true hpos]⟩

/-! ## Presses with nothing in between -/

theorem press_of_none (h : c.editor.suggestions = []) (live : Bool) (presses : List Direction) :
    c.press live presses = (c, List.replicate presses.length false) := by
  induction presses with
  | nil => rfl
  | cons d rest ih =>
    rw [press, handle_press_of_none h]
    dsimp only
    rw [ih, List.length_cons, List.replicate_succ]

/-- Presses are all used, and go on from where the highlight is. -/
theorem press_follow (h : c.editor.suggestions ≠ []) (live : Bool) {before : List Direction}
    (hfollow : Follow c.editor.suggestions.length before c.editor.highlighted)
    (presses : List Direction) :
    ∃ highlighted, c.press live presses =
        ({ c with editor := { c.editor with highlighted } }, List.replicate presses.length true) ∧
      Follow c.editor.suggestions.length (before ++ presses) highlighted := by
  induction presses generalizing c before with
  | nil => exact ⟨c.editor.highlighted, rfl, by rwa [List.append_nil]⟩
  | cons d rest ih =>
    have hpos : 0 < c.editor.suggestions.length := List.length_pos_iff.mpr h
    have hstep := hfollow.concat hpos d
    obtain ⟨highlighted, heq, hlast⟩ := ih (c := { c with editor := { c.editor with
      highlighted := some (d.move c.editor.suggestions.length c.editor.highlighted) } }) h hstep
    refine ⟨highlighted, ?_, by rwa [List.append_cons]⟩
    rw [press, handle_press h]
    dsimp only
    rw [heq, List.length_cons, List.replicate_succ]

/-! ## Presses among moves in the background -/

theorem highlighted_resume {id : Nat}
    (h : (c.resume id).value.1.editor.suggestions = c.editor.suggestions) :
    (c.resume id).value.1.editor.highlighted = c.editor.highlighted := by
  have hr := resumed c id
  generalize (c.resume id).value.1 = d at hr h ⊢
  cases hr with
  | waiting | cancelled | stale => rfl
  | taken => exact Editor.highlighted_refilter h

/-- A move in the background that leaves the list alone leaves the highlight where it is. -/
theorem highlighted_move (hm : m.input? = none)
    (h : (c.move m).editor.suggestions = c.editor.suggestions) :
    (c.move m).editor.highlighted = c.editor.highlighted := by
  cases m with
  | input => cases hm
  | schedule | provider => rfl
  | resume id => exact highlighted_resume h
  | apply key candidates =>
    rw [move, apply_value] at h ⊢
    by_cases hkey : key = c.editor.key
    · rw [if_pos hkey] at h ⊢
      exact Editor.highlighted_refilter h
    · rw [if_neg hkey]
  | start id =>
    rw [move] at h ⊢
    rcases start_value c id with heq | ⟨-, heq⟩
    · rw [heq]
    · rw [heq] at h ⊢
      have hask := highlighted_resume (c := c.ask id) (by rwa [editor_ask])
      rwa [editor_ask] at hask

theorem follow_move (h : Follow c.editor.suggestions.length presses c.editor.highlighted)
    (hm : m.direction?.isSome ∨ m.input? = none)
    (hlist : (c.move m).editor.suggestions = c.editor.suggestions) :
    Follow c.editor.suggestions.length (presses ++ m.direction?.toList)
      (c.move m).editor.highlighted := by
  cases hd : m.direction? with
  | none =>
    have hinput : m.input? = none := hm.resolve_left (by simp [hd])
    rw [highlighted_move hinput hlist, Option.toList_none, List.append_nil]
    exact h
  | some d =>
    obtain ⟨live, rfl⟩ := Move.eq_press hd
    by_cases hnil : c.editor.suggestions = []
    · have hzero : c.editor.suggestions.length = 0 := List.length_eq_zero_iff.mpr hnil
      rw [move, handle_press_of_none hnil]
      exact Or.inl ⟨Or.inr hzero, h.eq_none hzero⟩
    · rw [move, handle_press hnil]
      exact h.concat (List.length_pos_iff.mpr hnil) d

/-- What a run has led to, if the list stayed all the time. -/
theorem follow_run (hnone : c.editor.highlighted = none) {moves : List Move}
    (hmoves : ∀ m ∈ moves, m.direction?.isSome ∨ m.input? = none)
    (hlist : ∀ before, before <+: moves →
      (c.run before).editor.suggestions = c.editor.suggestions) :
    Follow c.editor.suggestions.length (moves.filterMap Move.direction?)
      (c.run moves).editor.highlighted := by
  induction moves using List.reverseRecOn with
  | nil => exact Or.inl ⟨Or.inl rfl, hnone⟩
  | append_singleton moves m ih =>
    have hbefore : moves <+: moves ++ [m] := List.prefix_append moves [m]
    have hrun := ih (fun n hn => hmoves n (List.mem_append_left _ hn))
      fun before h => hlist before (h.trans hbefore)
    have hstay := hlist moves hbefore
    have hlast := hlist (moves ++ [m]) (List.prefix_refl _)
    rw [run_concat] at hlast ⊢
    rw [← hstay] at hrun hlast ⊢
    have hm := follow_move hrun (hmoves m (by simp)) hlast
    rw [List.filterMap_append]
    cases hd : m.direction? <;> simpa [hd] using hm

/-- Without a highlight at first, presses of the arrow keys lead round the list to the place of the
presses. Each of them is used and changes nothing but the highlight; without suggestions none is used
or changes anything. Moves in the background that leave the list alone make no difference. -/
theorem arrows_go_round (c : Controller) (hnone : c.editor.highlighted = none) :
    let count := c.editor.suggestions.length
    (∀ live presses, presses ≠ [] → 0 < count → ∃ i : Nat,
        c.press live presses = ({ c with editor := { c.editor with highlighted := some i } },
          List.replicate presses.length true) ∧ (i : Int) = place presses % count) ∧
      (∀ live presses, count = 0 →
        c.press live presses = (c, List.replicate presses.length false)) ∧
      ∀ moves : List Move, (∀ m ∈ moves, m.direction?.isSome ∨ m.input? = none) →
        (∀ before, before <+: moves →
          (c.run before).editor.suggestions = c.editor.suggestions) →
        let d := c.run moves
        let presses := moves.filterMap Move.direction?
        (presses ≠ [] → 0 < count → ∃ i : Nat, d.editor.highlighted = some i ∧
            (i : Int) = place presses % count) ∧
          (count = 0 → d.editor.highlighted = none) ∧
          ∀ live (press : Direction), ∃ highlighted, d.handle live (.key press.key.name) =
            ({ d with editor := { d.editor with highlighted } }, decide (0 < count)) := by
  intro count
  refine ⟨?_, ?_, ?_⟩
  · intro live presses hne hpos
    have hstart : Follow count [] c.editor.highlighted := Or.inl ⟨Or.inl rfl, hnone⟩
    obtain ⟨highlighted, heq, hfollow⟩ :=
      press_follow (List.length_pos_iff.mp hpos) live hstart presses
    obtain ⟨i, rfl, hplace⟩ := hfollow.eq_some hne hpos
    exact ⟨i, heq, hplace⟩
  · intro live presses hzero
    exact press_of_none (List.length_eq_zero_iff.mp hzero) live presses
  · intro moves hmoves hlist d presses
    have hfollow : Follow count presses d.editor.highlighted := follow_run hnone hmoves hlist
    have hstay : d.editor.suggestions = c.editor.suggestions := hlist moves (List.prefix_refl _)
    refine ⟨hfollow.eq_some, hfollow.eq_none, ?_⟩
    intro live press
    have hpress := handle_press_cases d live press
    rwa [hstay] at hpress

/-- An editor that offers three names. -/
def offering : Editor :=
  { text := "s"
    candidates := [{ name := "sin" }, { name := "sqrt" }, { name := "sum" }]
    suggestions := [{ name := "sin" }, { name := "sqrt" }, { name := "sum" }] }

/-- Back over the front of the list, a refresh that brings the same names, and back again. -/
def roundMoves : List Move :=
  [.input true (.key "ArrowUp"), .input true (.key "ArrowUp"), .apply "s" offering.candidates,
    .input true (.key "ArrowUp"), .provider (.invalidate none), .input true (.key "ArrowUp")]

theorem arrows_go_round_names :
    let c : Controller := { editor := offering }
    c.editor.highlighted = none ∧
      (c.press false [.down, .up, .up, .up, .down]).1.editor.highlighted = some 1 ∧
      (c.run roundMoves).editor.highlighted = some 2 ∧
      ((c.run roundMoves).handle true (.key "ArrowDown")).2 = true := by
  intro c
  have hnone : c.editor.highlighted = none := rfl
  obtain ⟨hpress, -, hrun⟩ := arrows_go_round c hnone
  have hlist : ∀ before, before <+: roundMoves →
      (c.run before).editor.suggestions = c.editor.suggestions := by
    intro before hbefore
    have hmem : before ∈ roundMoves.inits := (List.mem_inits _ _).mpr hbefore
    simp only [roundMoves, List.inits, List.map_cons, List.map_nil, List.mem_cons,
      List.not_mem_nil, or_false] at hmem
    rcases hmem with rfl | rfl | rfl | rfl | rfl | rfl | rfl <;> decide +kernel
  have hmoves : ∀ m ∈ roundMoves, m.direction?.isSome ∨ m.input? = none := by
    simp [roundMoves, Move.direction?, Move.input?, show Key.ofName? "ArrowUp" = some .arrowUp from rfl,
      Direction.ofKey?]
  obtain ⟨i, hi, hplace⟩ := hpress false [.down, .up, .up, .up, .down] (by decide) (by decide)
  obtain ⟨hround, -, hused⟩ := hrun roundMoves hmoves hlist
  obtain ⟨j, hj, hplace'⟩ := hround (by decide +kernel) (by decide)
  obtain ⟨highlighted, hdown⟩ := hused true .down
  have hone : (i : Int) = 1 := hplace.trans (by decide)
  have htwo : (j : Int) = 2 := hplace'.trans (by decide +kernel)
  refine ⟨hnone, ?_, ?_, congrArg Prod.snd hdown⟩
  · rw [hi, show i = 1 by omega]
  · rw [hj, show j = 2 by omega]

end Controller

end Formulary
