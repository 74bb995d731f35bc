import IPv6Suite.RoutingFileSections

namespace IPv6Suite

open Lib

open Lib.TextParts (words)

namespace RoutingTableParser

def Reported : ParserFault → Prop
  | .oppError _ _ | .routingTable _ => True
  | .outOfBounds | .uninitialised | .outOfFuel => False

/-- The parser ends with a result or with an error, inside its arrays. -/
abbrev Contained {α : Type} (r : ParserExec α) : Prop := Ensures Reported (fun _ => True) r

/-- The condition is enough for the parser to stay inside its arrays, and needed if the memory is bad. -/
structure Decides {α : Type} (bad : Prop) (r : ParserExec α) (cond : Prop) : Prop where
  enough : cond → Contained r
  needed : bad → Contained r → cond

namespace Decides

variable {α β : Type} {bad cond cond' : Prop} {r : ParserExec α}

theorem congr (decides : Decides bad r cond) (same : cond ↔ cond') : Decides bad r cond' :=
  ⟨fun holds => decides.enough (same.mpr holds), fun badly contained =>
    same.mp (decides.needed badly contained)⟩

theorem mono {bad' : Prop} (decides : Decides bad r cond) (worse : bad' → bad) : Decides bad' r cond :=
  ⟨decides.enough, fun badly => decides.needed (worse badly)⟩

theorem returned (value : α) : Decides bad (.ok value : ParserExec α) True :=
  ⟨fun _ => True.intro, fun _ _ => True.intro⟩

theorem reported (contained : Contained r) : Decides bad r True := ⟨fun _ => contained, fun _ _ => True.intro⟩

theorem escapes {next : α → ParserExec β} (fails : bad → r = .error .outOfBounds) :
    Decides bad (r >>= next) False := by
  refine ⟨nofun, fun badly contained => ?_⟩
  rw [fails badly] at contained
  exact contained

theorem check {next : α → ParserExec β} (reports : Contained r)
    (rest : ∀ value, r = .ok value → Decides bad (next value) cond) :
    Decides bad (r >>= next) (r.isOk = false ∨ cond) := by
  cases r with
  | error fault => exact ⟨fun _ => reports, fun _ _ => Or.inl rfl⟩
  | ok value => exact (rest value rfl).congr ⟨Or.inr, fun holds => holds.resolve_left Bool.true_eq_false.mp⟩

end Decides

/-! ### Words of a text -/

/-- A text that ends with a newline, or an empty one -/
def Ends (text : List Char) : Prop := text = [] ∨ '\n' ∈ text.getLast?

structure AtWord (text : List Char) : Prop where
  first : ∀ c ∈ text.head?, isspace c = false
  ends : Ends text

theorem Ends.suffix {text rest : List Char} (ends : Ends text) (suffix : rest <:+ text) : Ends rest := by
  obtain ⟨front, rfl⟩ := suffix
  by_cases nil : rest = []
  · exact Or.inl nil
  · rcases ends with none | last
    · exact absurd (List.append_eq_nil_iff.mp none).2 nil
    · rw [List.getLast?_append, List.getLast?_eq_some_getLast nil, Option.some_or] at last
      rw [← List.getLast?_eq_some_getLast nil] at last
      exact Or.inr last

theorem atWord_dropWhile {text : List Char} (ends : Ends text) : AtWord (text.dropWhile isspace) where
  first := by
    intro c head
    have stops := List.head?_dropWhile_not isspace text
    rw [head] at stops
    exact stops
  ends := ends.suffix (List.dropWhile_suffix isspace)

theorem AtWord.split {text : List Char} (at' : AtWord text) (more : text ≠ []) : ∃ word c rest,
    text = word ++ c :: rest ∧ word = text.takeWhile (fun c => !isspace c) ∧
      c :: rest = text.dropWhile (fun c => !isspace c) ∧ word ≠ [] ∧
        (∀ d ∈ word, isspace d = false) ∧ isspace c = true := by
  have same := List.takeWhile_append_dropWhile (p := fun c => !isspace c) (l := text)
  have whole : ∀ d ∈ text.takeWhile (fun c => !isspace c), isspace d = false := by
    intro d member
    simpa using List.mem_takeWhile_imp member
  cases behind : text.dropWhile (fun c => !isspace c) with
  | nil =>
      rw [behind, List.append_nil] at same
      rw [same] at whole
      have last := at'.ends.resolve_left more
      have blank := whole '\n' (List.mem_of_getLast? last)
      exact absurd blank (by decide)
  | cons c rest =>
      refine ⟨_, c, rest, ?_, rfl, rfl, ?_, whole, ?_⟩
      · rw [← behind, same]
      · cases text with
        | nil => exact absurd rfl more
        | cons d text =>
            have first := at'.first d rfl
            rw [List.takeWhile_cons_of_pos (by simpa using first)]
            exact List.cons_ne_nil _ _
      · have stops := List.head?_dropWhile_not (fun c => !isspace c) text
        rw [behind] at stops
        simpa using stops

/-! ### Reading a word -/

section

variable {array : List Char}

theorem skipBlanks_append (text : List Char) :
    skipBlanks (text ++ NUL :: array) = .ok (text.dropWhile isspace ++ NUL :: array) := by
  induction text with
  | nil => rfl
  | cons c text ih =>
      rw [List.cons_append]
      unfold skipBlanks
      cases blank : isspace c with
      | true => rw [if_pos rfl, List.dropWhile_cons_of_pos blank, ih]
      | false => rw [if_neg Bool.false_ne_true, List.dropWhile_cons_of_neg (by simp [blank]), List.cons_append]

theorem strcpyword_word {word : List Char} (whole : ∀ d ∈ word, isspace d = false) {c : Char}
    (blank : isspace c = true) (room : Nat) (rest : List Char) :
    strcpyword room (word ++ c :: rest) =
      if word.length < room then .ok (word, c :: rest) else .error .outOfBounds := by
  induction word generalizing room with
  | nil =>
      cases room with
      | zero => rfl
      | succ room =>
          rw [List.nil_append, if_pos (show [].length < room + 1 from Nat.succ_pos room)]
          exact if_pos blank
  | cons d word ih =>
      cases room with
      | zero => rfl
      | succ room =>
          have inside := whole d List.mem_cons_self
          rw [List.cons_append]
          unfold strcpyword
          rw [inside, if_neg Bool.false_ne_true, ih (fun d member => whole d (List.mem_cons_of_mem _ member))]
          simp only [List.length_cons, Nat.succ_lt_succ_iff]
          split <;> rfl

theorem strcpyword_end (noBlank : ∀ c ∈ array, isspace c = false) (room : Nat) :
    strcpyword room array = .error .outOfBounds := by
  induction array generalizing room with
  | nil => cases room <;> rfl
  | cons c array ih =>
      cases room with
      | zero => rfl
      | succ room =>
          unfold strcpyword
          rw [noBlank c List.mem_cons_self, if_neg Bool.false_ne_true,
            ih (fun d member => noBlank d (List.mem_cons_of_mem _ member))]
          rfl

/-- The memory behind the text holds no blank that would end a word. -/
def NoBlank (array : List Char) : Prop := ∀ c ∈ array, isspace c = false

theorem NoBlank.strcpyword (noBlank : NoBlank array) (room : Nat) :
    strcpyword room (NUL :: array) = .error .outOfBounds := by
  refine strcpyword_end (fun c member => ?_) room
  rcases List.mem_cons.mp member with rfl | inside
  · decide
  · exact noBlank c inside

theorem decides_word {α : Type} {bad : Prop} (worse : bad → NoBlank array) {text : List Char}
    (at' : AtWord text) {room : Nat} {next : List Char × List Char → ParserExec α} {cond : Prop}
    (rest : text ≠ [] → AtWord ((text.dropWhile fun c => !isspace c).dropWhile isspace) →
      Decides bad (next (text.takeWhile fun c => !isspace c,
        (text.dropWhile fun c => !isspace c).dropWhile isspace ++ NUL :: array)) cond) :
    Decides bad (do
        let (word, file) ← strcpyword room (text ++ NUL :: array)
        let file ← skipBlanks file
        next (word, file))
      (text ≠ [] ∧ (text.takeWhile fun c => !isspace c).length < room ∧ cond) := by
  by_cases nil : text = []
  · subst nil
    exact (Decides.escapes fun badly => (worse badly).strcpyword room).congr (by simp)
  · obtain ⟨word, c, behind, same, first, last, -, whole, blank⟩ := at'.split nil
    have after := rest nil (atWord_dropWhile (at'.ends.suffix (List.dropWhile_suffix _)))
    rw [← first, ← last] at after
    rw [← first]
    have copies : strcpyword room (text ++ NUL :: array) =
        if word.length < room then .ok (word, c :: (behind ++ NUL :: array)) else .error .outOfBounds := by
      rw [same, List.append_assoc]
      exact strcpyword_word whole blank room _
    by_cases fits : word.length < room
    · rw [if_pos fits] at copies
      rw [copies]
      change Decides _ (skipBlanks ((c :: behind) ++ NUL :: array) >>= fun file => next (word, file)) _
      rw [skipBlanks_append]
      exact after.congr ⟨fun holds => ⟨nil, fits, holds⟩, fun holds => holds.2.2⟩
    · rw [if_neg fits] at copies
      exact (Decides.escapes fun _ => copies).congr ⟨False.elim, fun holds => fits holds.2.1⟩

def behindWord (text : List Char) : List Char := (text.dropWhile fun c => !isspace c).dropWhile isspace

theorem parseColumn_bind {α : Type} (file : List Char) (next : List Char × List Char → ParserExec α) :
    parseColumn file >>= next = (do
      let (word, file) ← strcpyword MAX_ENTRY_STRING_SIZE file
      let file ← skipBlanks file
      next (cString word, file)) := by
  unfold parseColumn
  cases strcpyword MAX_ENTRY_STRING_SIZE file with
  | error fault => rfl
  | ok copied =>
      change (skipBlanks copied.2 >>= fun file => _) >>= next = _
      cases blanks : skipBlanks copied.2 with
      | error fault =>
          change _ = skipBlanks copied.2 >>= _
          rw [blanks]
          rfl
      | ok file =>
          change _ = skipBlanks copied.2 >>= _
          rw [blanks]
          rfl

theorem words_eq {text : List Char} (at' : AtWord text) (more : text ≠ []) :
    words text = text.takeWhile (fun c => !isspace c) :: words (behindWord text) := by
  obtain ⟨word, c, rest, same, first, last, some, whole, blank⟩ := at'.split more
  unfold behindWord
  rw [← first, ← last, List.dropWhile_cons_of_pos blank]
  conv_lhs => rw [same]
  exact (TextParts.words_append some whole blank).trans
    (congrArg (word :: ·) (TextParts.words_dropWhile rest).symm)

theorem behindWord_lt {text : List Char} (at' : AtWord text) (more : text ≠ []) :
    (behindWord text).length < text.length := by
  obtain ⟨word, c, rest, same, -, last, some, -⟩ := at'.split more
  have shorter := (List.dropWhile_suffix (l := c :: rest) isspace).length_le
  have length := congrArg List.length same
  have positive := List.length_pos_iff.mpr some
  unfold behindWord
  rw [← last]
  rw [List.length_append] at length
  omega

theorem words_eq_nil {text : List Char} (at' : AtWord text) (none : words text = []) : text = [] := by
  by_contra more
  rw [words_eq at' more] at none
  cases none

/-- Columns that each have to be there and to fit into the array, up to the first that raises an error,
and what has to hold of the words behind them -/
def ColumnsFit : List (List Char → Bool) → (List (List Char) → Prop) → List (List Char) → Prop
  | [], rest, ws => rest ws
  | _ :: _, _, [] => False
  | raises :: columns, rest, word :: ws =>
      word.length < MAX_ENTRY_STRING_SIZE ∧ (raises word = true ∨ ColumnsFit columns rest ws)

instance decidableColumnsFit (rest : List (List Char) → Prop) [DecidablePred rest] :
    ∀ columns ws, Decidable (ColumnsFit columns rest ws)
  | [], ws => inferInstanceAs (Decidable (rest ws))
  | _ :: _, [] => inferInstanceAs (Decidable False)
  | raises :: columns, word :: ws =>
      have := decidableColumnsFit rest columns ws
      inferInstanceAs (Decidable (_ ∧ (raises word = true ∨ ColumnsFit columns rest ws)))

def raisesIn {β : Type} (check : List Char → ParserExec β) (word : List Char) : Bool :=
  !(check (cString word)).isOk

theorem decides_column {α β γ : Type} {text : List Char} (at' : AtWord text)
    {check : List Char → ParserExec β} (reports : ∀ str, Contained (check str))
    {next : β → List Char × List Char → ParserExec γ} {further : γ → ParserExec α}
    {columns : List (List Char → Bool)} {cond : List (List Char) → Prop}
    (rest : ∀ value text', AtWord text' → text'.length < text.length → ∀ word,
      words text = word :: words text' → check (cString word) = .ok value →
        Decides (NoBlank array) (next value (cString word, text' ++ NUL :: array) >>= further)
          (ColumnsFit columns cond (words text'))) :
    Decides (NoBlank array)
      ((do
        let column ← parseColumn (text ++ NUL :: array)
        let value ← check column.1
        next value column) >>= further)
      (ColumnsFit (raisesIn check :: columns) cond (words text)) := by
  have assoc : (do
        let column ← parseColumn (text ++ NUL :: array)
        let value ← check column.1
        next value column) >>= further =
      parseColumn (text ++ NUL :: array) >>= fun column =>
        check column.1 >>= fun value => next value column >>= further := by
    rw [bind_assoc]
    exact bind_congr fun column => bind_assoc (check column.1) _ _
  rw [assoc, parseColumn_bind]
  refine Decides.congr (@decides_word array α (NoBlank array) id text at' MAX_ENTRY_STRING_SIZE
    (fun r => check (cString r.1) >>= fun value => next value (cString r.1, r.2) >>= further)
    ((check (cString (text.takeWhile fun c => !isspace c))).isOk = false ∨
      ColumnsFit columns cond (words (behindWord text)))
    fun more after => ?_) ?_
  · refine Decides.check (reports _) fun value checked => ?_
    exact rest value _ after (behindWord_lt at' more) _ (words_eq at' more) checked
  · by_cases more : text = []
    · subst more
      simp [ColumnsFit]
    · rw [words_eq at' more, and_iff_right more]
      simp only [ColumnsFit, raisesIn, Bool.not_eq_true']

end

end RoutingTableParser

end IPv6Suite
