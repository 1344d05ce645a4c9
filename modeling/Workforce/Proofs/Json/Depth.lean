import Workforce.Proofs.Json.Text

/-!
# How deep a value may be

Arrays and objects may stand 127 deep in each other in a text.  This module
shows that nothing else decides whether a text is read: of a value whose numbers
and names can be read, the text is read back if the value is no deeper than
that, and refused if it is (`IsPlain.ofText?_text`).
-/

namespace Workforce.Json

open Workforce.Text

mutual

/-- How deep arrays and objects stand in each other. -/
def depth : Json → Nat
  | .arr items => itemsDepth items + 1
  | .obj members => membersDepth members + 1
  | _ => 0

/-- The depth of the deepest of some items. -/
def itemsDepth : List Json → Nat
  | [] => 0
  | item :: rest => max (depth item) (itemsDepth rest)

/-- The depth of the deepest of some members. -/
def membersDepth : List (String × Json) → Nat
  | [] => 0
  | (_, value) :: rest => max (depth value) (membersDepth rest)

end

/-- Whether the numbers of a value are integers that 64 bits can hold, and the
members of each object have names of their own. -/
def IsPlain (j : Json) : Prop :=
  ∃ n, j.Readable n

theorem itemsDepth_le {items : List Json} {n : Nat} :
    itemsDepth items ≤ n ↔ ∀ item ∈ items, item.depth ≤ n := by
  induction items with
  | nil =>
      exact ⟨fun _ _ member => absurd member List.not_mem_nil,
        fun _ => Nat.zero_le n⟩
  | cons item items inductionHypothesis =>
      rw [itemsDepth, Nat.max_le, inductionHypothesis, List.forall_mem_cons]

theorem membersDepth_le {members : List (String × Json)} {n : Nat} :
    membersDepth members ≤ n ↔ ∀ m ∈ members, m.2.depth ≤ n := by
  induction members with
  | nil =>
      exact ⟨fun _ _ member => absurd member List.not_mem_nil,
        fun _ => Nat.zero_le n⟩
  | cons m members inductionHypothesis =>
      rw [membersDepth, Nat.max_le, inductionHypothesis, List.forall_mem_cons]

/-- A value that can be read can be read at its own depth, and at no lesser. -/
theorem Readable.iff_depth {n k : Nat} {j : Json} (readable : j.Readable n) :
    j.Readable k ↔ j.depth ≤ k := by
  induction readable generalizing k with
  | null =>
      exact ⟨fun _ => Nat.zero_le k, fun _ => .null⟩
  | bool b =>
      exact ⟨fun _ => Nat.zero_le k, fun _ => .bool b⟩
  | int held =>
      exact ⟨fun _ => Nat.zero_le k, fun _ => .int held⟩
  | str s =>
      exact ⟨fun _ => Nat.zero_le k, fun _ => .str s⟩
  | @arr _ items each inductionHypothesis =>
      constructor
      · intro whole
        cases whole with
        | arr parts =>
            refine Nat.succ_le_succ (itemsDepth_le.2 fun item member => ?_)
            exact (inductionHypothesis item member).1 (parts item member)
      · intro within
        rw [depth] at within
        obtain ⟨k, rfl⟩ := Nat.exists_eq_succ_of_ne_zero
          (Nat.ne_zero_of_lt within)
        refine .arr fun item member => (inductionHypothesis item member).2 ?_
        exact itemsDepth_le.1 (Nat.le_of_succ_le_succ within) item member
  | @obj _ members distinct each inductionHypothesis =>
      constructor
      · intro whole
        cases whole with
        | obj _ parts =>
            refine Nat.succ_le_succ (membersDepth_le.2 fun m member => ?_)
            exact (inductionHypothesis m member).1 (parts m member)
      · intro within
        rw [depth] at within
        obtain ⟨k, rfl⟩ := Nat.exists_eq_succ_of_ne_zero
          (Nat.ne_zero_of_lt within)
        refine .obj distinct fun m member => (inductionHypothesis m member).2 ?_
        exact membersDepth_le.1 (Nat.le_of_succ_le_succ within) m member

/-! ## What is too deep -/

/-- The text of a value is not read, whatever follows it. -/
def Refused (depth : Nat) (j : Json) : Prop :=
  ∀ (fuel : Nat) (rest : List Char), j.toChars.length ≤ fuel → Ends rest →
    value depth fuel (j.toChars ++ rest) = none

/-- Each of some values is read back or refused, and one of them is refused. -/
def SomeRefused (depth : Nat) (all : List Json) : Prop :=
  (∀ j ∈ all, ReadBack depth j ∨ Refused depth j) ∧
    ∃ j ∈ all, Refused depth j

/-- Of some values of which one is refused, it is the first or a later one. -/
theorem SomeRefused.cases {depth : Nat} {first : Json} {others : List Json}
    (refused : SomeRefused depth (first :: others)) :
    Refused depth first ∨
      (ReadBack depth first ∧ SomeRefused depth others) := by
  obtain ⟨each, j, member, refused⟩ := refused
  obtain ⟨this, those⟩ := List.forall_mem_cons.1 each
  rcases List.mem_cons.1 member with rfl | later
  · exact .inl refused
  · exact this.symm.imp_right fun read => ⟨read, those, j, later, refused⟩

theorem SomeRefused.ne_nil {depth : Nat} {all : List Json}
    (refused : SomeRefused depth all) : all ≠ [] := by
  obtain ⟨_, j, member, _⟩ := refused
  exact List.ne_nil_of_mem member

theorem items_refused {depth : Nat} {all : List Json}
    (refused : SomeRefused depth all) {fuel : Nat}
    (enough : (itemChars all).length < fuel) (rest : List Char) :
    items depth fuel (itemChars all ++ ']' :: rest) = none := by
  induction all generalizing fuel with
  | nil =>
      exact absurd rfl refused.ne_nil
  | cons item others inductionHypothesis =>
      obtain ⟨fuel, rfl⟩ := Nat.exists_eq_succ_of_ne_zero
        (Nat.ne_zero_of_lt enough)
      cases others with
      | nil =>
          rw [itemChars] at enough ⊢
          rcases refused.cases with first | ⟨_, later⟩
          · exact fails_then (first fuel _ (Nat.le_of_lt_succ enough)
              (ends_cons (by decide) _))
          · exact absurd rfl later.ne_nil
      | cons second others =>
          rw [itemChars_cons, List.length_append, List.length_cons] at enough
          rw [itemChars_cons, List.append_assoc]
          rcases refused.cases with first | ⟨first, later⟩
          · exact fails_then (first fuel _ (by omega)
              (ends_cons (by decide) _))
          · exact read_then (first fuel _ (by omega)
              (ends_cons (by decide) _))
              (fails_then (inductionHypothesis later (by omega)))

theorem members_refused {depth : Nat} {all : List (String × Json)}
    (refused : SomeRefused depth (all.map Prod.snd)) {fuel : Nat}
    (enough : (memberChars all).length < fuel) (rest : List Char) :
    members depth fuel (memberChars all ++ '\x7d' :: rest) = none := by
  induction all generalizing fuel with
  | nil =>
      exact absurd rfl refused.ne_nil
  | cons m others inductionHypothesis =>
      obtain ⟨fuel, rfl⟩ := Nat.exists_eq_succ_of_ne_zero
        (Nat.ne_zero_of_lt enough)
      cases others with
      | nil =>
          rw [memberChars, List.length_append, List.length_cons] at enough
          rw [memberChars, List.append_assoc, List.cons_append,
            quote_append, members]
          refine read_then (quoted_tail m.1 _) ?_
          rcases refused.cases with first | ⟨_, later⟩
          · exact fails_then (first fuel _ (by omega)
              (ends_cons (by decide) _))
          · exact absurd rfl later.ne_nil
      | cons second others =>
          rw [memberChars_cons, List.length_append, List.length_cons,
            List.length_append, List.length_cons] at enough
          rw [memberChars_cons, List.append_assoc, List.cons_append,
            List.append_assoc, quote_append, members]
          refine read_then (quoted_tail m.1 _) ?_
          rcases refused.cases with first | ⟨first, later⟩
          · exact fails_then (first fuel _ (by omega)
              (ends_cons (by decide) _))
          · exact read_then (first fuel _ (by omega)
              (ends_cons (by decide) _))
              (fails_then (inductionHypothesis later (by omega)))

/-- Each of the parts of a value is read back or refused, by its depth. -/
theorem someRefused_of_depth {n depth : Nat} {all : List Json}
    (readable : ∀ j ∈ all, j.Readable n)
    (deeper : ∀ j ∈ all, depth < j.depth → Refused depth j)
    (deep : ¬ ∀ j ∈ all, j.depth ≤ depth) : SomeRefused depth all := by
  constructor
  · intro j member
    by_cases within : j.depth ≤ depth
    · exact .inl ((readable j member).iff_depth.2 within).readBack
    · exact .inr (deeper j member (Nat.lt_of_not_le within))
  · obtain ⟨j, tooDeep⟩ := not_forall.1 deep
    obtain ⟨member, above⟩ := Classical.not_imp.1 tooDeep
    exact ⟨j, member, deeper j member (Nat.lt_of_not_le above)⟩

/-- What is deeper than what may still be read is refused. -/
theorem Readable.refused {n limit : Nat} {j : Json} (readable : j.Readable n)
    (deep : limit < j.depth) : Refused limit j := by
  induction readable generalizing limit with
  | null =>
      exact absurd deep (Nat.not_lt_zero limit)
  | bool b =>
      exact absurd deep (Nat.not_lt_zero limit)
  | int held =>
      exact absurd deep (Nat.not_lt_zero limit)
  | str s =>
      exact absurd deep (Nat.not_lt_zero limit)
  | @arr _ all each inductionHypothesis =>
      intro fuel rest enough _
      rw [toChars, List.length_cons, List.length_append,
        List.length_singleton] at enough
      rw [toChars, List.cons_append, List.append_assoc]
      obtain ⟨fuel, rfl⟩ := Nat.exists_eq_succ_of_ne_zero
        (Nat.ne_zero_of_lt enough)
      cases limit with
      | zero =>
          rfl
      | succ limit =>
          have some : SomeRefused limit all :=
            someRefused_of_depth each
              (fun item member above => inductionHypothesis item member above)
              (fun shallow => Nat.not_le.2 (Nat.lt_of_succ_lt_succ deep)
                (itemsDepth_le.2 shallow))
          exact (value_bracket ((begins_itemChars some.ne_nil).append _) _
            fuel).trans (fails_then (items_refused some (by omega) rest))
  | @obj _ all distinct each inductionHypothesis =>
      intro fuel rest enough _
      rw [toChars, List.length_cons, List.length_append,
        List.length_singleton] at enough
      rw [toChars, List.cons_append, List.append_assoc]
      obtain ⟨fuel, rfl⟩ := Nat.exists_eq_succ_of_ne_zero
        (Nat.ne_zero_of_lt enough)
      cases limit with
      | zero =>
          rfl
      | succ limit =>
          have some : SomeRefused limit (all.map Prod.snd) :=
            someRefused_of_depth (List.forall_mem_map.2 each)
              (List.forall_mem_map.2 fun m member above =>
                inductionHypothesis m member above)
              (fun shallow => Nat.not_le.2 (Nat.lt_of_succ_lt_succ deep)
                (membersDepth_le.2 (List.forall_mem_map.1 shallow)))
          have begins : Begins (memberChars all) :=
            begins_memberChars fun none => some.ne_nil (none ▸ rfl)
          exact (value_brace (begins.append _) _ fuel).trans
            (fails_then (members_refused some (by omega) rest))

/-- The text of a value is read back if it is at most 127 deep, and is refused
otherwise. -/
theorem IsPlain.ofText?_text {j : Json} (plain : j.IsPlain) :
    ofText? j.text = if j.depth ≤ 127 then some j else none := by
  obtain ⟨n, readable⟩ := plain
  split
  · rename_i within
    exact Json.ofText?_text (readable.iff_depth.2 within)
  · rename_i deep
    have refused := readable.refused (Nat.lt_of_not_le deep)
      (j.toChars.length + 1) [] (Nat.le_succ _) ends_nil
    rw [List.append_nil] at refused
    rw [ofText?, text, String.toList_ofList]
    exact fails_then refused

end Workforce.Json
