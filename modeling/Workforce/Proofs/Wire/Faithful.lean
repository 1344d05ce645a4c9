import Workforce.Pay.Deduction
import Workforce.Wire.Basic
import Workforce.Proofs.Decimal.Text
import Workforce.Proofs.Json.Depth
import Workforce.Proofs.Time.Rfc3339

/-!
# Wire forms that are read back

What is written of a value should give the value back.  A type for which this is
shown says with it which values it holds for, what exactly comes back, and how
deep arrays and objects may stand in each other in the form (`Wire.Faithful`).
From the laws for the form follows what comes of its text (`ofText?_encode`).

Most types give back the value itself (`Exact`).  Two kinds of values do not: a
zero comes back without its minus sign, and a payload that is present but null
comes back absent.
-/

namespace Workforce

/-- An object whose fields have names of their own and are not deeper than
`m`. -/
theorem Json.Readable.record {m n : Nat} {members : List (String × Json)}
    (within : m + 1 ≤ n)
    (distinct : decide (members.map Prod.fst).Nodup = true)
    (each : ∀ k, m ≤ k → members.Forall fun e => e.2.Readable k) :
    (Json.obj members).Readable n := by
  cases n with
  | zero =>
      exact absurd within (Nat.not_succ_le_zero m)
  | succ k =>
      exact .obj (of_decide_eq_true distinct) fun e member =>
        List.forall_iff_forall_mem.1 (each k (Nat.le_of_succ_le_succ within)) e
          member

namespace Wire

/-! ## The laws -/

/-- A wire form that is read back.  This holds of the values that fit; what
comes back is settled, and is the value itself if that is whole.  In the form no
more than `nesting` arrays and objects stand in each other. -/
class Faithful (α : Type) [Wire α] where
  Fits : α → Prop
  Whole : α → Prop := fun _ => True
  settled : α → α := id
  nesting : α → Nat := fun _ => 0
  decode_encode (a : α) (fits : Fits a) :
    decode (encode a) = some (settled a)
  settled_eq (a : α) (whole : Whole a) : settled a = a := by
    intros
    rfl
  readable (a : α) (fits : Fits a) {n : Nat} (within : nesting a ≤ n) :
    (encode a).Readable n

export Faithful
  (Fits Whole settled nesting decode_encode settled_eq readable)

/-- A type with no value that is written as null. -/
class NeverNull (α : Type) [Wire α] : Prop where
  encode_ne_null (a : α) : encode a ≠ .null

/-- A type whose values are written without arrays and objects. -/
class Flat (α : Type) [Wire α] [Faithful α] : Prop where
  nesting_eq_zero (a : α) : nesting a = 0

/-- A type whose values all come back as they are. -/
class Exact (α : Type) [Wire α] [Faithful α] : Prop where
  whole (a : α) : Whole a

section Laws

variable {α β : Type} [Wire α] [Faithful α]

/-- The form of a value is no deeper than its type says. -/
theorem depth_encode_le (a : α) (fits : Fits a) :
    (encode a).depth ≤ nesting a := by
  have whole := readable a fits (Nat.le_refl _)
  exact whole.iff_depth.1 whole

/-- The text of a value that fits is read back, unless the form is too deep for
any text. -/
theorem ofText?_encode (a : α) (fits : Fits a) :
    (Json.ofText? (encode a).text).bind decode =
      if (encode a).depth ≤ 127 then some (settled a) else none := by
  have plain : (encode a).IsPlain := ⟨_, readable a fits (Nat.le_refl _)⟩
  rw [plain.ofText?_text]
  split
  · exact decode_encode a fits
  · rfl

/-- Values of a type that is written flat can be read anywhere. -/
theorem flat [Flat α] (a : α) (fits : Fits a) {n : Nat} :
    (encode a).Readable n :=
  readable a fits ((Flat.nesting_eq_zero a).symm ▸ Nat.zero_le n)

/-- A record is read field by field: where the form of `a` is read, the rest
goes on with what comes back. -/
theorem read (a : α) (fits : Fits a) {found : Option α}
    (same : found = decode (encode a)) {rest : α → Option β} {b : Option β}
    (next : rest (settled a) = b) : found >>= rest = b := by
  rw [same, decode_encode a fits]
  exact next

/-- Where the value comes back as it is, the rest goes on with it. -/
theorem keep [Exact α] (a : α) (fits : Fits a) {found : Option α}
    (same : found = decode (encode a)) {rest : α → Option β} {b : Option β}
    (next : rest a = b) : found >>= rest = b :=
  read a fits same
    ((congrArg rest (settled_eq a (Exact.whole a))).trans next)

end Laws

/-! ## Single values -/

instance : Faithful String where
  Fits _ := True
  decode_encode _ _ := rfl
  readable s _ _ _ := .str s

instance : Faithful Bool where
  Fits _ := True
  decode_encode _ _ := rfl
  readable b _ _ _ := .bool b

instance : Faithful Int where
  Fits i := minInt64 ≤ i ∧ i ≤ maxInt64
  decode_encode _ fits := if_pos fits
  readable _ fits _ _ := .int ⟨fits.1, Int.le_trans fits.2 (by decide)⟩

instance : Faithful Nat where
  Fits n := n ≤ maxNat64
  decode_encode n fits := by
    have within : (0 : Int) ≤ n ∧ (n : Int) ≤ maxNat64 := by omega
    exact congrArg (Option.map Int.toNat) (if_pos within)
  readable n fits _ _ := by
    have low : minInt64 ≤ 0 := by decide
    exact .int ⟨by omega, by omega⟩

instance : Faithful Decimal where
  Fits _ := True
  Whole d := d.magnitude = 0 → d.negative = false
  settled := Decimal.settled
  decode_encode d _ := d.ofText?_text
  settled_eq _ whole := Decimal.settled_eq_self whole
  readable d _ _ _ := .str d.text

instance : Faithful ZonedTime where
  Fits t := t.HasFourDigits
  decode_encode _ fits := ZonedTime.ofText?_text fits
  readable t _ _ _ := .str t.text

instance : Faithful Instant where
  Fits t := (ZonedTime.ofInstant t).HasFourDigits
  decode_encode _ fits := Instant.ofText?_text fits
  readable t _ _ _ := .str t.text

instance : Faithful Json where
  Fits j := j.IsPlain
  nesting := Json.depth
  decode_encode _ _ := rfl
  readable _ fits _ within := by
    obtain ⟨_, plain⟩ := fits
    exact plain.iff_depth.2 within

instance (i : Int) : Decidable (Fits i) :=
  inferInstanceAs (Decidable (_ ∧ _))

instance (n : Nat) : Decidable (Fits n) :=
  inferInstanceAs (Decidable (_ ≤ _))

instance (t : ZonedTime) : Decidable (Fits t) :=
  inferInstanceAs (Decidable t.HasFourDigits)

instance (t : Instant) : Decidable (Fits t) :=
  inferInstanceAs (Decidable (ZonedTime.ofInstant t).HasFourDigits)

/-- Names that tell the values of a type apart. -/
class Telling (α : Type) [Named α] : Prop where
  ofName?_name (a : α) : Named.ofName? (Named.name a) = some a

instance {α : Type} [Named α] [Telling α] : Faithful α where
  Fits _ := True
  decode_encode a _ := Telling.ofName?_name a
  readable a _ _ _ := .str (Named.name a)

instance : NeverNull String := ⟨fun _ => Json.noConfusion⟩

instance : NeverNull Int := ⟨fun _ => Json.noConfusion⟩

instance : NeverNull Decimal := ⟨fun _ => Json.noConfusion⟩

instance : NeverNull ZonedTime := ⟨fun _ => Json.noConfusion⟩

instance : NeverNull Instant := ⟨fun _ => Json.noConfusion⟩

instance : Exact String := ⟨fun _ => trivial⟩

instance : Exact Bool := ⟨fun _ => trivial⟩

instance : Exact Int := ⟨fun _ => trivial⟩

instance : Exact Nat := ⟨fun _ => trivial⟩

instance : Exact ZonedTime := ⟨fun _ => trivial⟩

instance : Exact Instant := ⟨fun _ => trivial⟩

instance : Exact Json := ⟨fun _ => trivial⟩

instance {α : Type} [Named α] [Telling α] : Exact α := ⟨fun _ => trivial⟩

instance : Flat String := ⟨fun _ => rfl⟩

instance : Flat Bool := ⟨fun _ => rfl⟩

instance : Flat Int := ⟨fun _ => rfl⟩

instance : Flat Nat := ⟨fun _ => rfl⟩

instance : Flat Decimal := ⟨fun _ => rfl⟩

instance : Flat ZonedTime := ⟨fun _ => rfl⟩

instance : Flat Instant := ⟨fun _ => rfl⟩

instance {α : Type} [Named α] [Telling α] : Flat α := ⟨fun _ => rfl⟩

/-! ## Values that may be missing -/

theorem decode_of_ne_null {α : Type} [Wire α] {j : Json} (some : j ≠ .null) :
    decode (α := Option α) j = (decode j).map .some := by
  cases j with
  | null =>
      exact absurd rfl some
  | _ =>
      rfl

instance {α : Type} [Wire α] [Faithful α] [NeverNull α] :
    Faithful (Option α) where
  Fits o := ∀ a ∈ o, Fits a
  Whole o := ∀ a ∈ o, Whole a
  settled o := o.map settled
  nesting o := (o.map nesting).getD 0
  decode_encode o fits := by
    cases o with
    | none =>
        rfl
    | some a =>
        have back := decode_encode a (fits a rfl)
        exact (decode_of_ne_null (NeverNull.encode_ne_null a)).trans
          (congrArg (Option.map some) back)
  settled_eq o whole := by
    cases o with
    | none =>
        rfl
    | some a =>
        exact congrArg some (settled_eq a (whole a rfl))
  readable o fits n within := by
    cases o with
    | none =>
        exact .null
    | some a =>
        exact readable a (fits a rfl) within

instance {α : Type} [Wire α] [Faithful α] [NeverNull α] [Flat α] :
    Flat (Option α) where
  nesting_eq_zero o := by
    cases o with
    | none =>
        rfl
    | some a =>
        exact Flat.nesting_eq_zero a

instance {α : Type} [Wire α] [Faithful α] [NeverNull α] [Exact α] :
    Exact (Option α) :=
  ⟨fun _ a _ => Exact.whole a⟩

theorem fits_none {α : Type} [Wire α] [Faithful α] [NeverNull α] :
    Fits (none : Option α) := by
  intro _ member
  cases member

theorem fits_some {α : Type} [Wire α] [Faithful α] [NeverNull α] {a : α}
    (fits : Fits a) : Fits (some a) := by
  intro _ same
  cases same
  exact fits

/-- A payload as it comes back: one that is null has gone. -/
def settledPayload : Option Json → Option Json
  | some .null => none
  | payload => payload

instance : Faithful (Option Json) where
  Fits o := ∀ j ∈ o, Fits j
  Whole o := o ≠ some .null
  settled := settledPayload
  nesting o := (o.map nesting).getD 0
  decode_encode o _ := by
    cases o with
    | none =>
        rfl
    | some j =>
        cases j with
        | null =>
            rfl
        | _ =>
            rfl
  settled_eq o whole := by
    unfold settledPayload
    split
    · exact absurd rfl whole
    · rfl
  readable o fits n within := by
    cases o with
    | none =>
        exact .null
    | some j =>
        exact readable j (fits j rfl) within

theorem fits_text (o : Option String) : Fits o := by
  intro _ _
  trivial

end Wire

end Workforce
