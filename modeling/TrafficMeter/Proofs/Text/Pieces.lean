import Mathlib.Data.List.DropRight
import TrafficMeter.Text.Split

/-! # Pieces of a text

What it means for a text to consist of given lines, to hold given words, and to be a core
between blanks, each said by how the text is put together. Splitting finds exactly these
pieces, and every text has them.
-/

namespace TrafficMeter.Text

/-- Nothing but blanks. -/
def Blanks (cs : List Char) : Prop := ∀ c ∈ cs, isBlank c = true

/-- Some characters, none of which is blank. -/
structure IsWord (cs : List Char) : Prop where
  some_char : cs ≠ []
  clear : ∀ c ∈ cs, isBlank c = false

/-- No blank at either end. -/
structure Tight (cs : List Char) : Prop where
  first : ∀ c ∈ cs.head?, isBlank c = false
  last : ∀ c ∈ cs.getLast?, isBlank c = false

/-- The text holds these words, with blanks between any two of them. -/
inductive Spaced : List (List Char) → List Char → Prop where
  | nil {gap} (blanks : Blanks gap) : Spaced [] gap
  | cons {gap word words rest} (blanks : Blanks gap) (is_word : IsWord word)
      (apart : ∀ c ∈ rest.head?, isBlank c = true) (more : Spaced words rest) :
      Spaced (word :: words) (gap ++ (word ++ rest))

/-- The text consists of these lines. A carriage return before a line feed belongs to the line
end, and only the last line may have none. -/
inductive Lined : List (List Char) → List Char → Prop where
  | nil : Lined [] []
  | last {line} (clear : '\n' ∉ line) (some_char : line ≠ []) : Lined [line] line
  | feed {line lines rest} (clear : '\n' ∉ line) (no_return : '\r' ∉ line.getLast?)
      (more : Lined lines rest) : Lined (line :: lines) (line ++ '\n' :: rest)
  | returnFeed {line lines rest} (clear : '\n' ∉ line) (more : Lined lines rest) :
      Lined (line :: lines) (line ++ '\r' :: '\n' :: rest)

variable {c : Char} {cs gap before core after line rest word : List Char}
  {pieces : List (List Char)}

section Words

theorem Blanks.cons (blank : isBlank c = true) (blanks : Blanks gap) : Blanks (c :: gap) :=
  List.forall_mem_cons.mpr ⟨blank, blanks⟩

theorem words_cons_blank (blank : isBlank c = true) (cs : List Char) :
    words (c :: cs) = words cs := by
  simpa [words] using words_append blank [] cs

theorem words_blanks_append (blanks : Blanks gap) (cs : List Char) :
    words (gap ++ cs) = words cs := by
  induction gap with
  | nil => rfl
  | cons c gap ih =>
      obtain ⟨blank, blanks⟩ := List.forall_mem_cons.mp blanks
      rw [List.cons_append, words_cons_blank blank, ih blanks]

theorem words_of_blanks (blanks : Blanks gap) : words gap = [] := by
  simpa [words] using words_blanks_append blanks []

theorem words_word_append (is_word : IsWord word) (apart : ∀ c ∈ rest.head?, isBlank c = true) :
    words (word ++ rest) = word :: words rest := by
  cases rest with
  | nil => simpa [words] using words_of_clear is_word.clear is_word.some_char
  | cons c rest =>
      have blank := apart c rfl
      rw [words_append blank, words_of_clear is_word.clear is_word.some_char,
        words_cons_blank blank, List.singleton_append]

theorem Spaced.words_eq (spaced : Spaced pieces cs) : words cs = pieces := by
  induction spaced with
  | nil blanks => exact words_of_blanks blanks
  | cons blanks is_word apart _ ih =>
      rw [words_blanks_append blanks, words_word_append is_word apart, ih]

/-- Putting a character in front widens the first gap, widens the first word or makes a word. -/
theorem exists_spaced (cs : List Char) : ∃ pieces, Spaced pieces cs := by
  induction cs with
  | nil => exact ⟨[], .nil (by simp [Blanks])⟩
  | cons c cs ih =>
      obtain ⟨pieces, spaced⟩ := ih
      cases blank : isBlank c with
      | true =>
          cases spaced with
          | nil blanks => exact ⟨[], .nil (blanks.cons blank)⟩
          | cons blanks is_word apart more =>
              exact ⟨_, .cons (blanks.cons blank) is_word apart more⟩
      | false =>
          have alone : IsWord [c] := ⟨by simp, by simpa using blank⟩
          have none : Blanks [] := by simp [Blanks]
          cases spaced with
          | nil blanks =>
              exact ⟨_, .cons none alone (fun d inside => blanks d (List.mem_of_mem_head? inside))
                (.nil blanks)⟩
          | @cons gap word words rest blanks is_word apart more =>
              cases gap with
              | nil =>
                  have longer : IsWord (c :: word) :=
                    ⟨by simp, List.forall_mem_cons.mpr ⟨blank, is_word.clear⟩⟩
                  exact ⟨_, .cons none longer apart more⟩
              | cons d gap =>
                  exact ⟨_, .cons none alone (fun e inside => blanks e (by simp_all))
                    (.cons blanks is_word apart more)⟩

theorem spaced_words (cs : List Char) : Spaced (words cs) cs := by
  obtain ⟨pieces, spaced⟩ := exists_spaced cs
  rwa [spaced.words_eq]

theorem not_blank_of_digit (digit : c.isDigit = true) : isBlank c = false := by
  have bounds : 48 ≤ c.toNat ∧ c.toNat ≤ 57 := by
    simpa [Char.isDigit, UInt32.le_iff_toNat_le] using digit
  simp [isBlank]
  omega

end Words

section Lines

theorem dropReturn_concat (line : List Char) (c : Char) :
    dropReturn (line ++ [c]) = if c = '\r' then line else line ++ [c] := by
  simp [dropReturn]

theorem dropReturn_of_none (no_return : '\r' ∉ line.getLast?) : dropReturn line = line :=
  if_neg no_return

/-- Only a carriage return at the end goes. -/
theorem dropReturn_append_cons (other : c ≠ '\r') (before rest : List Char) :
    dropReturn (before ++ c :: rest) = before ++ c :: dropReturn rest := by
  rcases List.eq_nil_or_concat rest with rfl | ⟨start, last, rfl⟩
  · rw [dropReturn_concat, if_neg other]
    rfl
  · rw [List.concat_eq_append, ← List.cons_append, ← List.append_assoc, dropReturn_concat,
      dropReturn_concat]
    split <;> simp

theorem words_dropReturn (cs : List Char) : words (dropReturn cs) = words cs := by
  unfold dropReturn
  split
  · next ends =>
      obtain ⟨start, rfl⟩ := List.getLast?_eq_some_iff.mp ends
      have blank : isBlank '\r' = true := by decide
      rw [List.dropLast_concat, words_append blank]
      simp [words]
  · rfl

theorem blanks_dropReturn (blanks : Blanks gap) : Blanks (dropReturn gap) := by
  unfold dropReturn
  split
  · exact fun c inside => blanks c (List.dropLast_subset gap inside)
  · exact blanks

theorem lines_feed (clear : '\n' ∉ line) (rest : List Char) :
    lines (line ++ '\n' :: rest) = dropReturn line :: lines rest :=
  lines_append fun _ inside => ne_of_mem_of_not_mem inside clear

theorem lines_returnFeed (clear : '\n' ∉ line) (rest : List Char) :
    lines (line ++ '\r' :: '\n' :: rest) = line :: lines rest := by
  have inline : '\n' ∉ line ++ ['\r'] := by simpa using clear
  have longer := lines_feed inline rest
  rwa [List.append_assoc, List.singleton_append, dropReturn_concat, if_pos rfl] at longer

theorem lines_nil : lines [] = [] := rfl

theorem lines_of_inline (clear : '\n' ∉ line) : lines line = if line = [] then [] else [line] := by
  by_cases none : line = []
  · rw [if_pos none, none, lines_nil]
  · rw [if_neg none]
    exact lines_of_clear (fun _ inside => ne_of_mem_of_not_mem inside clear) none

theorem Lined.lines_eq (lined : Lined pieces cs) : lines cs = pieces := by
  induction lined with
  | nil => exact lines_nil
  | last clear some_char => rw [lines_of_inline clear, if_neg some_char]
  | feed clear no_return _ ih => rw [lines_feed clear, dropReturn_of_none no_return, ih]
  | returnFeed clear _ ih => rw [lines_returnFeed clear, ih]

theorem Lined.inline (lined : Lined pieces cs) : ∀ line ∈ pieces, '\n' ∉ line := by
  induction lined with
  | nil => simp
  | last clear => simpa using clear
  | feed clear _ _ ih | returnFeed clear _ ih => exact List.forall_mem_cons.mpr ⟨clear, ih⟩

/-- Putting a character in front of a text widens its first line, or starts one. -/
theorem exists_lined (cs : List Char) : ∃ pieces, Lined pieces cs := by
  induction cs with
  | nil => exact ⟨[], .nil⟩
  | cons c cs ih =>
      obtain ⟨pieces, lined⟩ := ih
      by_cases feed : c = '\n'
      · subst feed
        have none : '\n' ∉ ([] : List Char) := by simp
        exact ⟨_, .feed none (by simp) lined⟩
      · have still {line : List Char} (clear : '\n' ∉ line) : '\n' ∉ c :: line := by
          simp [clear, Ne.symm feed]
        cases lined with
        | nil => exact ⟨_, .last (still (by simp)) (by simp)⟩
        | last clear some_char => exact ⟨_, .last (still clear) (by simp)⟩
        | returnFeed clear more => exact ⟨_, .returnFeed (still clear) more⟩
        | @feed line lines rest clear no_return more =>
            -- a carriage return in front of an empty line belongs to the line end
            by_cases ends : line = [] ∧ c = '\r'
            · obtain ⟨rfl, rfl⟩ := ends
              exact ⟨_, .returnFeed clear more⟩
            · refine ⟨_, .feed (still clear) ?_ more⟩
              cases line with
              | nil => simpa using fun same => ends ⟨rfl, same⟩
              | cons d line => simpa using no_return

theorem lined_lines (cs : List Char) : Lined (lines cs) cs := by
  obtain ⟨pieces, lined⟩ := exists_lined cs
  rwa [lined.lines_eq]

end Lines

section Trim

theorem dropWhile_blanks_append (blanks : Blanks gap) (first : ∀ c ∈ cs.head?, isBlank c = false) :
    (gap ++ cs).dropWhile isBlank = cs := by
  rw [List.dropWhile_append_of_pos blanks]
  cases cs with
  | nil => rfl
  | cons c cs => exact List.dropWhile_cons_of_neg (by simp [first c rfl])

theorem trim_of_tight (left : Blanks before) (tight : Tight core) (right : Blanks after) :
    trim (before ++ (core ++ after)) = core := by
  by_cases none : core = []
  · subst none
    have blanks : ∀ c ∈ before ++ after, isBlank c = true :=
      List.forall_mem_append.mpr ⟨left, right⟩
    simp [trim, List.dropWhile_eq_nil_iff.mpr blanks]
  · have first : ∀ c ∈ (core ++ after).head?, isBlank c = false := by
      rw [List.head?_append_of_ne_nil _ none]
      exact tight.first
    have turned : Blanks after.reverse := fun c inside => right c (List.mem_reverse.mp inside)
    have last : ∀ c ∈ core.reverse.head?, isBlank c = false := by
      rw [List.head?_reverse]
      exact tight.last
    rw [trim, dropWhile_blanks_append left first, List.reverse_append,
      dropWhile_blanks_append turned last, List.reverse_reverse]

theorem not_blank_of_dropWhile (cs : List Char) :
    ∀ c ∈ (cs.dropWhile isBlank).head?, isBlank c = false := by
  intro c inside
  have stopped := List.head?_dropWhile_not isBlank cs
  rwa [Option.mem_def.mp inside] at stopped

theorem tight_trim (cs : List Char) : Tight (trim cs) where
  first := by
    intro c inside
    have kept : trim cs <+: cs.dropWhile isBlank := List.rdropWhile_prefix _ _
    obtain ⟨rest, parts⟩ := kept
    apply not_blank_of_dropWhile cs
    rw [← parts, List.head?_append, Option.mem_def.mp inside]
    rfl
  last := by
    rw [trim, List.getLast?_reverse]
    exact not_blank_of_dropWhile _

theorem exists_trim (cs : List Char) :
    ∃ before after, Blanks before ∧ Blanks after ∧ cs = before ++ (trim cs ++ after) := by
  let rest := cs.dropWhile isBlank
  have parts : trim cs ++ rest.rtakeWhile isBlank = rest := List.rdropWhile_append_rtakeWhile
  refine ⟨cs.takeWhile isBlank, rest.rtakeWhile isBlank, fun _ => List.mem_takeWhile_imp,
    fun _ => List.mem_rtakeWhile_imp, ?_⟩
  rw [parts, List.takeWhile_append_dropWhile]

end Trim

end TrafficMeter.Text
