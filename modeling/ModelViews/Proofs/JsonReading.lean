import ModelViews.Proofs.JsonText

namespace ModelViews

open Number Wire

namespace Json

variable {α β : Type} {p : α → Prop} {q : β → Prop} {limits : Limits}

structure Follows (p : α → Prop) (limited free : Except Fault α) : Prop where
  good : ∀ a, free = .ok a → p a
  flawed : ∀ fault, free = .error fault → ∃ flaw rest, fault = .flawed flaw rest
  alike : limited = free ∨ ∃ fault, limited = .error fault ∧ ∀ flaw rest, fault ≠ .flawed flaw rest

namespace Follows

variable {limited free : Except Fault α}

theorem ok {a : α} (holds : p a) : Follows p (.ok a) (.ok a) where
  good := by
    rintro _ ⟨⟩
    exact holds
  flawed := by
    rintro _ ⟨⟩
  alike := .inl rfl

theorem error (flaw : Flaw) (rest : List Char) :
    Follows p (.error (.flawed flaw rest)) (.error (.flawed flaw rest)) where
  good := by
    rintro _ ⟨⟩
  flawed := by
    rintro _ ⟨⟩
    exact ⟨flaw, rest, rfl⟩
  alike := .inl rfl

theorem refused (follows : Follows p limited free) {fault : Fault}
    (refusal : ∀ flaw rest, fault ≠ .flawed flaw rest) : Follows p (.error fault) free :=
  ⟨follows.good, follows.flawed, .inr ⟨fault, rfl, refusal⟩⟩

theorem bind {next other : α → Except Fault β} (first : Follows p limited free)
    (second : ∀ a, p a → Follows q (next a) (other a)) :
    Follows q (limited >>= next) (free >>= other) := by
  cases free with
  | error fault =>
      obtain ⟨flaw, rest, rfl⟩ := first.flawed fault rfl
      have stopped : Follows q (.error (.flawed flaw rest)) (.error (.flawed flaw rest)) :=
        .error flaw rest
      obtain rfl | ⟨fault, rfl, refusal⟩ := first.alike
      · exact stopped
      · exact stopped.refused refusal
  | ok a =>
      have gone : Follows q (next a) (other a) := second a (first.good a rfl)
      obtain rfl | ⟨fault, rfl, refusal⟩ := first.alike
      · exact gone
      · exact gone.refused refusal

end Follows

end Json

/-! Settled values. -/

namespace Wire

theorem isSettled_null : null.IsSettled := by
  rintro _ ⟨⟩
  trivial

private theorem isSettled_bool (b : Bool) : (bool b).IsSettled := by
  rintro _ ⟨⟩
  trivial

private theorem isSettled_int (n : Int) : (int n).IsSettled := by
  rintro _ ⟨⟩
  trivial

private theorem isSettled_float (x : Binary64) : (float x).IsSettled := by
  rintro _ ⟨⟩
  trivial

private theorem isSettled_str {text : CodeText} (settled : text.IsSettled) :
    (str text).IsSettled := by
  rintro _ ⟨⟩
  exact settled

private theorem isSettled_arr {items : List Wire} (settled : ∀ item ∈ items, item.IsSettled) :
    (arr items).IsSettled := by
  intro inner inside
  cases inside with
  | self => trivial
  | item member inside => exact settled _ member inner inside

private theorem isSettled_obj {members : List (CodeText × Wire)}
    (distinct : (members.map Prod.fst).Nodup)
    (settled : ∀ member ∈ members, member.1.IsSettled ∧ member.2.IsSettled) : (obj members).IsSettled := by
  intro inner inside
  cases inside with
  | self => exact ⟨distinct, fun member found => (settled member found).1⟩
  | member found inside => exact (settled _ found).2 inner inside

private theorem isSettled_ofPairs {pairs : List (CodeText × Wire)}
    (settled : ∀ pair ∈ pairs, pair.1.IsSettled ∧ pair.2.IsSettled) :
    (obj (Keyed.ofPairs pairs)).IsSettled :=
  isSettled_obj (Keyed.keys_putAll_nodup (by simp) pairs) fun member found =>
    settled member ((Keyed.of_mem_putAll found).resolve_right List.not_mem_nil)

end Wire

namespace Json

/-! Strings and numbers. -/

private theorem escape_follows (opening text : List Char) :
    Follows (fun _ => True) (escape opening text) (escape opening text) := by
  simp only [escape]
  repeat' split
  all_goals first | exact .ok trivial | exact .error _ _

private theorem stringBody_follows (bound : Nat) (opening text : List Char) :
    Follows (fun _ => True) (stringBody bound opening text) (stringBody bound opening text) := by
  induction bound generalizing text with
  | zero => exact .error _ _
  | succ bound ih =>
      cases text with
      | nil => exact .error _ _
      | cons c rest =>
          rw [stringBody]
          split
          · exact .ok trivial
          split
          · exact (escape_follows _ _).bind fun _ _ => (ih _).bind fun _ _ => .ok trivial
          split
          · exact .error _ _
          · exact (ih _).bind fun _ _ => .ok trivial

private theorem string_follows (text : List Char) :
    Follows (fun read => read.1.IsSettled) (string text) (string text) where
  good _ read := isSettled_of_string read
  flawed := (stringBody_follows _ _ _).flawed
  alike := .inl rfl

private theorem whole_follows (negative : Bool) (digits rest : List Char) :
    Follows (·.1.IsSettled) (whole limits negative digits rest)
      (whole .unbounded negative digits rest) := by
  have free : Follows (·.1.IsSettled) (whole .unbounded negative digits rest)
      (whole .unbounded negative digits rest) := by
    exact .ok (isSettled_int _)
  by_cases many : limits.digits.any (· < digits.length) = true
  · have refusal : whole limits negative digits rest = .error (.number (.tooMany digits.length)) := by
      rw [whole, if_pos many]
    rw [refusal]
    exact free.refused (by simp)
  · have same : whole limits negative digits rest = whole .unbounded negative digits rest := by
      rw [whole, if_neg many]
      rfl
    rw [same]
    exact free

private theorem unsignedNumber?_follows (negative : Bool) (text : List Char) (flaw : Flaw)
    (place : List Char) :
    Follows (·.1.IsSettled)
      ((unsignedNumber? limits negative text).getD (.error (.flawed flaw place)))
      ((unsignedNumber? .unbounded negative text).getD (.error (.flawed flaw place))) := by
  rw [unsignedNumber?, unsignedNumber?]
  cases wholeDigits? text with
  | none => exact .error flaw place
  | some read =>
      obtain ⟨digits, afterWhole⟩ := read
      simp only [Option.getD_some]
      cases exponent? (fractionDigits afterWhole).2 with
      | some read => exact .ok (isSettled_float _)
      | none =>
          simp only
          split
          · exact whole_follows negative digits _
          · exact .ok (isSettled_float _)

private theorem words_settled : ∀ word ∈ words, word.2.IsSettled := by
  simp only [words, List.forall_mem_cons]
  exact ⟨isSettled_null, isSettled_bool _, isSettled_bool _, isSettled_float _, isSettled_float _, isSettled_float _,
    by simp⟩

private theorem scalar_follows (text : List Char) :
    Follows (·.1.IsSettled) (scalar limits text) (scalar .unbounded text) := by
  rw [scalar, scalar]
  cases found : word? text with
  | some word => exact .ok (words_settled word (List.mem_of_find?_eq_some found))
  | none =>
      rw [number?.eq_def, number?.eq_def]
      simp only
      split
      · exact unsignedNumber?_follows true _ _ _
      · exact unsignedNumber?_follows false _ _ _

/-! Values. -/

section Values

variable {bound : Nat}

private theorem array_follows
    (lists : ∀ room text, Follows (fun read => ∀ item ∈ read.1, item.IsSettled)
      (items limits bound room text) (items .unbounded bound none text))
    (room : Option Nat) (text : List Char) :
    Follows (·.1.IsSettled) (value limits (bound + 1) room ('[' :: text))
      (value .unbounded (bound + 1) none ('[' :: text)) := by
  have follows (room : Option Nat) (roomy : room ≠ some 0) :
      Follows (·.1.IsSettled) (value limits (bound + 1) room ('[' :: text))
        (value .unbounded (bound + 1) none ('[' :: text)) := by
    rw [value, value, if_neg roomy, if_neg (by simp)]
    split
    · exact .ok (isSettled_arr (by simp))
    · exact (lists _ _).bind fun read settled => .ok (isSettled_arr settled)
  -- where there is no room, the reader without limits goes on; what it reads is told by `follows` too
  by_cases full : room = some 0
  · have refusal : value limits (bound + 1) room ('[' :: text) = .error (.tooDeep .array) := by
      rw [value, if_pos full]
    rw [refusal]
    exact (follows none (by simp)).refused (by simp)
  · exact follows room full

private theorem object_follows
    (objects : ∀ room text, Follows (fun read => ∀ pair ∈ read.1, pair.1.IsSettled ∧ pair.2.IsSettled)
      (members limits bound room text) (members .unbounded bound none text))
    (room : Option Nat) (text : List Char) :
    Follows (·.1.IsSettled) (value limits (bound + 1) room ('{' :: text))
      (value .unbounded (bound + 1) none ('{' :: text)) := by
  have follows (room : Option Nat) (roomy : room ≠ some 0) :
      Follows (·.1.IsSettled) (value limits (bound + 1) room ('{' :: text))
        (value .unbounded (bound + 1) none ('{' :: text)) := by
    rw [value, value, if_neg roomy, if_neg (by simp)]
    split
    · exact .ok (isSettled_obj (by simp) (by simp))
    · exact (objects _ _).bind fun read settled => .ok (isSettled_ofPairs settled)
  by_cases full : room = some 0
  · have refusal : value limits (bound + 1) room ('{' :: text) = .error (.tooDeep .object) := by
      rw [value, if_pos full]
    rw [refusal]
    exact (follows none (by simp)).refused (by simp)
  · exact follows room full

end Values

private theorem value_follows (bound : Nat) :
    (∀ room text,
      Follows (·.1.IsSettled) (value limits bound room text) (value .unbounded bound none text)) ∧
    (∀ room text, Follows (fun read => ∀ item ∈ read.1, item.IsSettled)
      (items limits bound room text) (items .unbounded bound none text)) ∧
    ∀ room text, Follows (fun read => ∀ pair ∈ read.1, pair.1.IsSettled ∧ pair.2.IsSettled)
      (members limits bound room text) (members .unbounded bound none text) := by
  induction bound with
  | zero => exact ⟨fun _ _ => .error _ _, fun _ _ => .error _ _, fun _ _ => .error _ _⟩
  | succ bound ih =>
      obtain ⟨values, lists, objects⟩ := ih
      refine ⟨?values, ?lists, ?objects⟩
      case values =>
        intro room text
        rw [value.eq_def, value.eq_def]
        simp only
        split
        · exact (string_follows _).bind fun read settled => .ok (isSettled_str settled)
        · exact array_follows lists room _
        · exact object_follows objects room _
        · exact scalar_follows _
      case lists =>
        intro room text
        rw [items, items]
        refine (values room text).bind fun first settled => ?_
        simp only
        split
        · exact .ok (by simpa using settled)
        · refine (lists room _).bind fun others all => .ok ?_
          exact List.forall_mem_cons.mpr ⟨settled, all⟩
        · exact .error _ _
      case objects =>
        intro room text
        rw [members.eq_def, members.eq_def]
        simp only
        split
        · refine (string_follows _).bind fun name named => ?_
          split
          · refine (values room _).bind fun first settled => ?_
            split
            · exact .ok (by simpa using ⟨named, settled⟩)
            · refine (objects room _).bind fun others all => .ok ?_
              exact List.forall_mem_cons.mpr ⟨⟨named, settled⟩, all⟩
            · exact .error _ _
          · exact .error _ _
        · exact .error _ _

private theorem document_follows (limits : Limits) (text : List Char) :
    Follows Wire.IsSettled (document limits text) (document .unbounded text) := by
  rw [document, document]
  split
  · exact .error _ _
  · refine ((value_follows _).1 _ _).bind fun read settled => ?_
    simp only
    split
    · exact .ok settled
    · exact .error _ _

/-! Whole texts. -/

theorem isSettled_of_read {text : String} {v : Wire} (read : readWithin .unbounded text = .ok v) :
    v.IsSettled := by
  rw [readWithin] at read
  cases found : document .unbounded text.toList with
  | error fault =>
      rw [found] at read
      cases read
  | ok result =>
      rw [found] at read
      cases read
      exact (document_follows .unbounded text.toList).good v found

theorem malformed_of_read {text : String} {error : ReadError}
    (fails : readWithin .unbounded text = .error error) :
    ∃ flaw, error = .malformed flaw := by
  rw [readWithin] at fails
  cases found : document .unbounded text.toList with
  | error fault =>
      obtain ⟨flaw, rest, rfl⟩ := (document_follows .unbounded text.toList).flawed fault found
      rw [found] at fails
      cases fails
      exact ⟨_, rfl⟩
  | ok result =>
      rw [found] at fails
      cases fails

/-- A reader with limits does as one without, or refuses the text for them. -/
theorem readWithin_follows (limits : Limits) (text : String) :
    readWithin limits text = readWithin .unbounded text ∨
      ∃ error, readWithin limits text = .error error ∧ ∀ flaw, error ≠ .malformed flaw := by
  rw [readWithin, readWithin]
  obtain same | ⟨fault, refused, refusal⟩ := (document_follows limits text.toList).alike
  · rw [same]
    exact .inl rfl
  · right
    rw [refused]
    cases fault with
    | flawed flaw rest => exact absurd rfl (refusal flaw rest)
    | number error => exact ⟨_, rfl, by simp [Fault.inText]⟩
    | tooDeep container => exact ⟨_, rfl, by simp [Fault.inText]⟩

end Json
end ModelViews
