import ModelViews.Console.Cells

namespace ModelViews.Cells

variable {text shown : List Char} {cluster : Cluster} {last other : Option Char} {merges : Bool}
  {total : Nat} {c : Char}

private theorem clustersFrom_text (cluster : Cluster) (merges : Bool) (last : Option Char)
    (text : List Char) :
    (clustersFrom cluster merges last text).flatMap Cluster.text = cluster.text ++ text := by
  induction text generalizing cluster merges last with
  | nil => simp [clustersFrom]
  | cons c rest ih =>
      cases merges with
      | true => simp [clustersFrom, ih, Cluster.grow]
      | false =>
          rw [clustersFrom]
          split
          · simp [ih, Cluster.grow]
          · split
            · simp [ih, Cluster.grow]
            · simp [ih]

private theorem clusters_text (text : List Char) : (clusters text).flatMap Cluster.text = text := by
  cases text with
  | nil => rfl
  | cons c rest => exact clustersFrom_text ⟨[c], Text.charWidth c⟩ false _ rest

private theorem mem_leading {clusters : List Cluster} (member : c ∈ leading total clusters) :
    c = ' ' ∨ c ∈ clusters.flatMap Cluster.text := by
  induction clusters generalizing total with
  | nil =>
      rw [leading] at member
      cases member
  | cons first rest ih =>
      cases total with
      | zero =>
          rw [leading] at member
          · cases member
          · exact List.cons_ne_nil first rest
      | succ room =>
          rw [leading] at member
          · split at member
            · exact .inl (List.mem_singleton.mp member)
            · rcases List.mem_append.mp member with here | later
              · exact .inr (List.mem_append_left _ here)
              · exact (ih later).imp_right (List.mem_append_right first.text)
          · exact Nat.succ_ne_zero room

private theorem fit_cases (fitted : fit total text = .ok shown) :
    (total = 0 ∧ shown = []) ∨ shown = leading total (clusters text) ∨
      shown = text ++ List.replicate (total - width text) ' ' := by
  rw [fit] at fitted
  split at fitted
  · next none => exact .inl ⟨none, (Except.ok.inj fitted).symm⟩
  · split at fitted
    · rw [cut] at fitted
      split at fitted
      · cases fitted
      · split at fitted
        · cases fitted
        · exact .inr (.inl (Except.ok.inj fitted).symm)
    · exact .inr (.inr (Except.ok.inj fitted).symm)

/-- A text that is cut or filled up has no other characters than before, but for spaces. -/
theorem mem_fit (fitted : fit total text = .ok shown) (member : c ∈ shown) : c = ' ' ∨ c ∈ text := by
  rcases fit_cases fitted with ⟨_, rfl⟩ | rfl | rfl
  · cases member
  · have among := mem_leading member
    rwa [clusters_text] at among
  · rcases List.mem_append.mp member with inside | behind
    · exact .inr inside
    · exact .inl (List.eq_of_mem_replicate behind)

private theorem widthFrom_congr (same : last.any Text.growsAsEmoji = other.any Text.growsAsEmoji)
    (merges : Bool) (text : List Char) :
    widthFrom merges last text = widthFrom merges other text := by
  induction text generalizing merges last other with
  | nil => simp [widthFrom]
  | cons c rest ih =>
      cases merges with
      | true => simp only [widthFrom, ih same]
      | false =>
          simp only [widthFrom, same, ih same]
          split
          · rfl
          · split
            · rfl
            · split
              · rw [ih same]
              · rfl

private theorem charWidth_emojiSelector : Text.charWidth emojiSelector = 0 := by decide +kernel

private theorem charWidth_joiner : Text.charWidth joiner = 0 := by decide +kernel

private theorem totalSize_clustersFrom (noJoiner : joiner ∉ text) (cluster : Cluster)
    (last : Option Char) :
    Cluster.totalSize (clustersFrom cluster false last text) =
      cluster.size + widthFrom false last text := by
  induction text generalizing cluster last with
  | nil => simp [clustersFrom, widthFrom, Cluster.totalSize]
  | cons c rest ih =>
      have notJoiner : c ≠ joiner := (List.ne_of_not_mem_cons noJoiner).symm
      have alone : (c == joiner) = false := beq_false_of_ne notJoiner
      replace noJoiner := List.not_mem_of_not_mem_cons noJoiner
      rw [clustersFrom, widthFrom, if_neg notJoiner]
      by_cases selector : c = emojiSelector
      · subst selector
        cases grows : last.any Text.growsAsEmoji with
        | true => simp [ih noJoiner, Cluster.grow, Nat.add_assoc]
        | false =>
            have forgotten : widthFrom false last rest = widthFrom false none rest :=
              widthFrom_congr grows false rest
            simp [charWidth_emojiSelector, ih noJoiner, Cluster.grow, forgotten, alone]
      · by_cases weightless : Text.charWidth c = 0
        · simp [selector, weightless, ih noJoiner, Cluster.grow, alone]
        · simp [selector, weightless, ih noJoiner, Cluster.totalSize]

private theorem totalSize_clusters (noJoiner : joiner ∉ text) :
    Cluster.totalSize (clusters text) = width text := by
  cases text with
  | nil => rfl
  | cons c rest =>
      have notJoiner : c ≠ joiner := (List.ne_of_not_mem_cons noJoiner).symm
      rw [clusters, totalSize_clustersFrom (List.not_mem_of_not_mem_cons noJoiner), width, widthFrom,
        if_neg notJoiner]
      by_cases selector : c = emojiSelector
      · simp [selector, charWidth_emojiSelector]
      · rw [if_neg selector]

theorem joiner_of_fit {error : CutError} (failed : fit total text = .error error) :
    joiner ∈ text := by
  refine Decidable.byContradiction fun noJoiner => ?_
  rw [fit] at failed
  split at failed
  · cases failed
  · split at failed
    · rename_i wide
      rw [cut, totalSize_clusters noJoiner, if_neg (by omega), if_neg (by omega)] at failed
      cases failed
    · cases failed

def AreLetters (text : List Char) : Prop :=
  ∀ c ∈ text, Text.charWidth c = 1 ∧ Text.growsAsEmoji c = false

instance (text : List Char) : Decidable (AreLetters text) :=
  List.decidableBAll (fun c => Text.charWidth c = 1 ∧ Text.growsAsEmoji c = false) text

private theorem clustersFrom_stays (stays : last.any Text.growsAsEmoji = false) (cluster : Cluster)
    (merges : Bool) (text : List Char) :
    ∃ more others, clustersFrom cluster merges last text =
      ⟨cluster.text ++ more, cluster.size⟩ :: others := by
  induction text generalizing cluster merges with
  | nil => exact ⟨[], [], by simp [clustersFrom]⟩
  | cons c rest ih =>
      cases merges with
      | true =>
          obtain ⟨more, others, same⟩ := ih (cluster.grow c 0) false
          exact ⟨c :: more, others, by rw [clustersFrom, same]; simp [Cluster.grow]⟩
      | false =>
          rw [clustersFrom, stays, Bool.and_false, if_neg Bool.false_ne_true]
          split
          · obtain ⟨more, others, same⟩ := ih (cluster.grow c 0) (c == joiner)
            exact ⟨c :: more, others, by rw [same]; simp [Cluster.grow]⟩
          · exact ⟨[], _, by rw [List.append_nil]⟩

private theorem leading_letters {label : List Char} (letters : AreLetters (c :: label))
    (fits : (c :: label).length ≤ total) (rest : List Char) :
    c :: label <+: leading total (clustersFrom ⟨[c], 1⟩ false (some c) (label ++ rest)) := by
  obtain ⟨room, rfl⟩ : ∃ room, total = room + 1 :=
    ⟨total - 1, by simp only [List.length_cons] at fits; omega⟩
  induction label generalizing c room with
  | nil =>
      have stays : (some c).any Text.growsAsEmoji = false := (letters c List.mem_cons_self).2
      obtain ⟨more, others, same⟩ := clustersFrom_stays stays ⟨[c], 1⟩ false rest
      rw [List.nil_append, same, leading, if_neg (by simp)]
      · exact ⟨_, (List.append_assoc [c] more _).symm⟩
      · exact Nat.succ_ne_zero room
  | cons next label ih =>
      obtain ⟨first, others⟩ := List.forall_mem_cons.mp letters
      obtain ⟨wide, _⟩ := List.forall_mem_cons.mp others
      have apart : clustersFrom ⟨[c], 1⟩ false (some c) (next :: label ++ rest) =
          ⟨[c], 1⟩ :: clustersFrom ⟨[next], 1⟩ false (some next) (label ++ rest) := by
        rw [List.cons_append, clustersFrom]
        simp [first.2, wide.1]
      obtain ⟨room, rfl⟩ : ∃ less, room = less + 1 :=
        ⟨room - 1, by simp only [List.length_cons] at fits; omega⟩
      have later := ih others room (by simp only [List.length_cons] at fits ⊢; omega)
      rw [apart, leading, if_neg (by simp)]
      · exact List.cons_prefix_cons.mpr ⟨rfl, later⟩
      · exact Nat.succ_ne_zero _

/-- What a text is cut or filled up to begins with the letters that the text begins with. -/
theorem prefix_fit {label : List Char} (letters : AreLetters label) (fits : label.length ≤ total)
    (begins : label <+: text) (fitted : fit total text = .ok shown) : label <+: shown := by
  obtain ⟨rest, rfl⟩ := begins
  cases label with
  | nil => exact List.nil_prefix
  | cons c label =>
      rcases fit_cases fitted with ⟨none, _⟩ | rfl | rfl
      · rw [none] at fits
        exact absurd fits (Nat.not_succ_le_zero _)
      · have wide : Text.charWidth c = 1 := (letters c List.mem_cons_self).1
        have begun : clusters (c :: label ++ rest) =
            clustersFrom ⟨[c], 1⟩ false (some c) (label ++ rest) := by
          rw [List.cons_append, clusters]
          simp [wide]
        rw [begun]
        exact leading_letters letters fits rest
      · exact ⟨_, (List.append_assoc (c :: label) rest _).symm⟩

theorem width_letters {label : List Char} (letters : AreLetters label) :
    width label = label.length := by
  have each (last : Option Char) : widthFrom false last label = label.length := by
    induction label generalizing last with
    | nil => rfl
    | cons c label ih =>
        obtain ⟨wide, others⟩ := List.forall_mem_cons.mp letters
        have notJoiner : c ≠ joiner := fun same => by
          rw [same, charWidth_joiner] at wide
          exact absurd wide.1 (by decide)
        have notSelector : c ≠ emojiSelector := fun same => by
          rw [same, charWidth_emojiSelector] at wide
          exact absurd wide.1 (by decide)
        rw [widthFrom, if_neg notJoiner, if_neg notSelector]
        simp only [wide.1, ih others, List.length_cons, Nat.add_comm]
  exact each none

end ModelViews.Cells
