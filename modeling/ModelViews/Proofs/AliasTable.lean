import Mathlib.Data.List.Find
import ModelViews.Proofs.LineGrammar
/-!
The order of the alias table. All aliases open alike, and behind the opening those of different
directives part at once. So a line with one opening can be of one directive only, and is of the same
directive in whatever order it is tested for them.
-/
namespace ModelViews

namespace Text

variable {mark : Char} {needle text rest more tail gap before after : List Char}

/-- A text stands in another at one place at the most. A place is told by what is before it. -/
def AtMostOnce (needle text : List Char) : Prop :=
  ∀ before other, before ++ needle <+: text → other ++ needle <+: text → before = other

def places (needle text : List Char) : List (List Char) :=
  text.inits.filter fun before => before ++ needle <+: text

private theorem mem_places {place : List Char} :
    place ∈ places needle text ↔ place ++ needle <+: text := by
  rw [places, List.mem_filter, List.mem_inits, decide_eq_true_iff, and_iff_right_iff_imp]
  exact (List.prefix_append place needle).trans

private theorem atMostOnce_iff :
    (∀ before ∈ places needle text, ∀ other ∈ places needle text, before = other) ↔
      AtMostOnce needle text := by
  simp only [mem_places]
  exact ⟨fun once before other stands => once before stands other,
    fun once before stands other => once before other stands⟩

instance (needle text : List Char) : Decidable (AtMostOnce needle text) :=
  decidable_of_iff _ atMostOnce_iff

private theorem over_before_mark (alone : mark ∉ rest) (nonempty : gap ≠ [])
    (same : mark :: rest ++ tail = gap ++ mark :: after) :
    ∃ between, gap = mark :: rest ++ between ∧ tail = between ++ mark :: after := by
  obtain ⟨first, gap, rfl⟩ := List.exists_cons_of_ne_nil nonempty
  obtain ⟨rfl, behind⟩ : mark = first ∧ rest ++ tail = gap ++ mark :: after := List.cons.inj same
  rcases List.append_eq_append_iff.mp behind with ⟨between, rfl, split⟩ | ⟨between, split, begins⟩
  · exact ⟨between, rfl, split⟩
  · cases between with
    | nil =>
        rw [List.append_nil] at split
        exact ⟨[], by rw [split, List.append_nil], begins.symm⟩
    | cons c between =>
        obtain ⟨rfl, _⟩ := List.cons.inj begins
        rw [split] at alone
        exact absurd (List.mem_append_right gap List.mem_cons_self) alone

private theorem atMostOnce_between (alone : mark ∉ rest ++ more)
    (notBefore : ¬ mark :: rest <:+: before)
    (notAfter : ¬ mark :: rest <:+: after) :
    AtMostOnce (mark :: rest) (before ++ (mark :: rest ++ more) ++ after) := by
  have here : ∀ place, place ++ mark :: rest <+: before ++ (mark :: rest ++ more) ++ after →
      place = before := by
    rintro place ⟨tail, same⟩
    rw [List.append_assoc, List.append_assoc] at same
    rcases List.append_eq_append_iff.mp same with ⟨gap, rfl, split⟩ | ⟨gap, rfl, split⟩
    · by_cases empty : gap = []
      · rw [empty, List.append_nil]
      · -- at an earlier place it is over before the mark, and so stands before it
        have aloneThere : mark ∉ rest := fun member => alone (List.mem_append_left more member)
        obtain ⟨between, rfl, _⟩ := over_before_mark aloneThere empty split
        exact absurd ⟨place, between, by simp⟩ notBefore
    · by_cases empty : gap = []
      · rw [empty, List.append_nil]
      · -- a later place begins with a second mark, which is behind the longer text
        obtain ⟨between, _, rfl⟩ := over_before_mark alone empty split
        exact absurd ⟨between, tail, by simp⟩ notAfter
  intro place other stands standsToo
  rw [here place stands, here other standsToo]

end Text

open Text (AtMostOnce)

namespace DirectiveKind

variable {kind other : DirectiveKind} {name line : String}

def opening : String := "@prisma-arktype."

def initial : DirectiveKind → Char
  | hidden => 'h'
  | hiddenInput => 'i'
  | hiddenCreate => 'c'
  | hiddenUpdate => 'u'
  | options => 'o'
  | typeOverwrite => 't'

private theorem initial_inj : kind.initial = other.initial ↔ kind = other := by
  cases kind <;> cases other <;> decide

private theorem alias_opens (isAlias : name ∈ kind.aliases) :
    opening.toList ++ [kind.initial] <+: name.toList ∧ '@' ∉ name.toList.tail := by
  have each : ∀ kind ∈ all, ∀ name ∈ kind.aliases,
      opening.toList ++ [kind.initial] <+: name.toList ∧ '@' ∉ name.toList.tail := by decide +kernel
  exact each kind kind.mem_all name isAlias

private theorem eq_of_standsOn (once : AtMostOnce opening.toList line.toList)
    (stands : kind.StandsOn line)
    (standsToo : other.StandsOn line) : kind = other := by
  have placed (kind : DirectiveKind) (stands : kind.StandsOn line) :
      ∃ place, place ++ (opening.toList ++ [kind.initial]) <+: line.toList := by
    obtain ⟨name, isAlias, place, behind, split⟩ := stands
    have begins : place ++ name.toList <+: line.toList := ⟨behind, split⟩
    exact ⟨place, ((List.prefix_append_right_inj place).mpr (alias_opens isAlias).1).trans begins⟩
  obtain ⟨place, opens⟩ := placed kind stands
  obtain ⟨otherPlace, opensToo⟩ := placed other standsToo
  rw [← List.append_assoc] at opens opensToo
  obtain rfl : place = otherPlace :=
    once _ _ ((List.prefix_append _ _).trans opens) ((List.prefix_append _ _).trans opensToo)
  -- behind the one opening there is one letter
  have same : place ++ opening.toList ++ [kind.initial] = place ++ opening.toList ++ [other.initial] :=
    (List.prefix_of_prefix_length_le opens opensToo (by simp)).eq_of_length (by simp)
  exact initial_inj.mp (List.cons.inj (List.append_cancel_left same)).1

def IsOrderFree (line : String) : Prop :=
  ∀ table : List DirectiveKind, table.Perm all → firstOn? table line = ofLine? line

private theorem IsOrderFree.ofLine_eq (free : IsOrderFree line) (stands : kind.StandsOn line) :
    ofLine? line = some kind := by
  have reordered : (kind :: all.erase kind).Perm all := (List.perm_cons_erase kind.mem_all).symm
  calc
    ofLine? line = firstOn? (kind :: all.erase kind) line := (free _ reordered).symm
    _ = some kind := List.find?_cons_of_pos (occursOn_iff.mpr stands)

private theorem isOrderFree_iff :
    IsOrderFree line ↔
      ∀ kind other : DirectiveKind, kind.StandsOn line → other.StandsOn line → kind = other := by
  constructor
  · intro free kind other stands standsToo
    apply Option.some.inj
    rw [← free.ofLine_eq stands, ← free.ofLine_eq standsToo]
  · intro only table reordered
    apply List.find?_eq_find?_of_perm reordered
    intro kind holds other holdsToo
    exact only kind other (occursOn_iff.mp holds.2) (occursOn_iff.mp holdsToo.2)

private theorem atMostOnce_alias (isAlias : name ∈ kind.aliases) {before after : String}
    (notBefore : ¬ opening.toList <:+: before.toList) (notAfter : ¬ opening.toList <:+: after.toList) :
    AtMostOnce opening.toList (before ++ name ++ after).toList := by
  have marked : opening.toList = '@' :: opening.toList.tail := by decide +kernel
  obtain ⟨⟨more, split⟩, alone⟩ := alias_opens isAlias
  rw [marked, List.append_assoc] at split
  rw [← split] at alone
  rw [String.toList_append, String.toList_append, ← split, marked]
  rw [marked] at notBefore notAfter
  exact Text.atMostOnce_between alone notBefore notAfter

/-- The order of the alias table matters for lines on which several directives stand, and for no others.
On a line with one opening, or none, there is one directive at the most; and an alias between any two texts
without an opening is read as its own directive, in whatever order the table has them. -/
theorem table_order_free :
    (∀ line, IsOrderFree line ↔
      ∀ kind other : DirectiveKind, kind.StandsOn line → other.StandsOn line → kind = other) ∧
    (∀ line, AtMostOnce opening.toList line.toList →
      (∀ kind other : DirectiveKind, kind.StandsOn line → other.StandsOn line → kind = other) ∧
        IsOrderFree line) ∧
    ∀ (kind : DirectiveKind) (name before after : String), name ∈ kind.aliases →
      ¬ opening.toList <:+: before.toList → ¬ opening.toList <:+: after.toList →
        ofLine? (before ++ name ++ after) = some kind ∧ IsOrderFree (before ++ name ++ after) := by
  have only (line : String) (once : AtMostOnce opening.toList line.toList) (kind other : DirectiveKind)
      (stands : kind.StandsOn line) (standsToo : other.StandsOn line) : kind = other :=
    eq_of_standsOn once stands standsToo
  refine ⟨fun line => isOrderFree_iff, ?_, ?_⟩
  · intro line once
    exact ⟨only line once, isOrderFree_iff.mpr (only line once)⟩
  · intro kind name before after isAlias notBefore notAfter
    have once := atMostOnce_alias isAlias notBefore notAfter
    have free : IsOrderFree (before ++ name ++ after) := isOrderFree_iff.mpr (only _ once)
    have stands : kind.StandsOn (before ++ name ++ after) :=
      ⟨name, isAlias, before.toList, after.toList, by simp⟩
    exact ⟨free.ofLine_eq stands, free⟩

example : firstOn? all.reverse "@prisma-arktype.hide @prisma-arktype.input.hide" ≠
    ofLine? "@prisma-arktype.hide @prisma-arktype.input.hide" := by decide +kernel

/-- A line with an alias of the inputs, parts of other aliases around it, and a second mark. -/
def crowdedLine : String :=
  "hide @prisma-arktype input.hide " ++ "@prisma-arktype.create.input.hidden" ++ ".hide@prisma-arktype"

theorem crowded_line_order_free :
    AtMostOnce opening.toList crowdedLine.toList ∧ IsOrderFree crowdedLine ∧
      ofLine? crowdedLine = some .hiddenCreate ∧
      firstOn? all.reverse crowdedLine = some .hiddenCreate ∧ ¬ hidden.StandsOn crowdedLine := by
  have once : AtMostOnce opening.toList crowdedLine.toList := by decide +kernel
  obtain ⟨_, ofOne, ofAlias⟩ := table_order_free
  obtain ⟨only, free⟩ := ofOne crowdedLine once
  obtain ⟨named, _⟩ := ofAlias .hiddenCreate "@prisma-arktype.create.input.hidden"
    "hide @prisma-arktype input.hide " ".hide@prisma-arktype" (by decide) (by decide +kernel)
    (by decide +kernel)
  have stands : hiddenCreate.StandsOn crowdedLine := by decide +kernel
  refine ⟨once, free, named, ?_, ?_⟩
  · rw [free _ (List.reverse_perm all)]
    exact named
  · intro hides
    cases only _ _ hides stands

end DirectiveKind
end ModelViews
