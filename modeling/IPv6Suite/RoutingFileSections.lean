import IPv6Suite.RoutingTableParser

namespace IPv6Suite

open Lib

open Lib.TextParts (afterLine exists_lines length_lines_le suffix_of_lines)

namespace RoutingTableParser

/-! ### The scanning loops -/

/-- A token is found where the text begins with it, if what stops the text is not part of the token. -/
theorem streq_append {stop : Char} {token : List Char} (other : stop ∉ token) (str rest : List Char) :
    streq (str ++ stop :: rest) token = .ok (token.isPrefixOf str) := by
  induction token generalizing str with
  | nil =>
      unfold streq
      rw [List.isPrefixOf_nil_left]
  | cons t token ih =>
      rw [List.mem_cons, not_or] at other
      cases str with
      | nil =>
          rw [List.nil_append]
          unfold streq
          rw [if_neg other.1]
          rfl
      | cons c str =>
          rw [List.cons_append]
          unfold streq
          rw [ih other.2 str]
          by_cases same : c = t
          · rw [if_pos same, same]
            simp
          · have differ : (t == c) = false := beq_eq_false_iff_ne.mpr (Ne.symm same)
            rw [if_neg same]
            change _ = Except.ok ((t == c) && token.isPrefixOf str)
            rw [differ, Bool.false_and]

theorem skipLines_cons (inLine : Bool) (c : Char) (file : List Char) :
    skipLines inLine (c :: file) =
      if ¬ inLine ∧ isalnum c then .ok (c :: file) else skipLines (c ≠ '\n') file := rfl

theorem skipLines_inLine {line : List Char} (noNewline : '\n' ∉ line) (rest : List Char) :
    skipLines true (line ++ '\n' :: rest) = skipLines false rest := by
  induction line with
  | nil => rw [List.nil_append, skipLines_cons, if_neg (by simp), decide_eq_false (by simp)]
  | cons c line ih =>
      rw [List.mem_cons, not_or] at noNewline
      rw [List.cons_append, skipLines_cons, if_neg (by simp), decide_eq_true (Ne.symm noNewline.1)]
      exact ih noNewline.2

theorem skipLines_line {line : List Char} (noNewline : '\n' ∉ line)
    (skipped : line.head?.any isalnum = false) (rest : List Char) :
    skipLines false (line ++ '\n' :: rest) = skipLines false rest := by
  cases line with
  | nil =>
      have newline : isalnum '\n' = false := by decide
      rw [List.nil_append, skipLines_cons, if_neg (by simp [newline]), decide_eq_false (by simp)]
  | cons c line =>
      rw [List.mem_cons, not_or] at noNewline
      have first : isalnum c = false := by simpa using skipped
      rw [List.cons_append, skipLines_cons, if_neg (by simp [first]),
        decide_eq_true (Ne.symm noNewline.1)]
      exact skipLines_inLine noNewline.2 rest

theorem skipLines_stops {c : Char} (first : isalnum c = true) (file : List Char) :
    skipLines false (c :: file) = .ok (c :: file) := by
  rw [skipLines_cons, if_pos (by simp [first])]

variable {file : List Char}

/-- Without a newline the loop runs out of the array. -/
theorem skipLines_inLine_end (noNewline : '\n' ∉ file) : skipLines true file = .error .outOfBounds := by
  induction file with
  | nil => rfl
  | cons c file ih =>
      rw [List.mem_cons, not_or] at noNewline
      rw [skipLines_cons, if_neg (by simp), decide_eq_true (Ne.symm noNewline.1)]
      exact ih noNewline.2

theorem skipLines_end (noNewline : '\n' ∉ file)
    (skipped : file.head?.any isalnum = false) : skipLines false file = .error .outOfBounds := by
  cases file with
  | nil => rfl
  | cons c file =>
      rw [List.mem_cons, not_or] at noNewline
      have first : isalnum c = false := by simpa using skipped
      rw [skipLines_cons, if_neg (by simp [first]), decide_eq_true (Ne.symm noNewline.1)]
      exact skipLines_inLine_end noNewline.2

theorem copyLine_line {line : List Char} (noNewline : '\n' ∉ line) {room : Nat}
    (fits : line.length < room) (rest : List Char) :
    copyLine room (line ++ '\n' :: rest) = .ok (line ++ ['\n'], rest) := by
  induction line generalizing room with
  | nil =>
      obtain ⟨room, rfl⟩ := Nat.exists_eq_add_one.mpr fits
      rfl
  | cons c line ih =>
      obtain ⟨room, rfl⟩ := Nat.exists_eq_add_one.mpr (Nat.zero_lt_of_lt fits)
      rw [List.mem_cons, not_or] at noNewline
      rw [List.cons_append]
      unfold copyLine
      rw [if_neg (Ne.symm noNewline.1), ih noNewline.2 (Nat.lt_of_succ_lt_succ fits)]
      rfl

theorem copyLine_end (noNewline : '\n' ∉ file) (room : Nat) : copyLine room file = .error .outOfBounds := by
  induction file generalizing room with
  | nil => cases room <;> rfl
  | cons c file ih =>
      rw [List.mem_cons, not_or] at noNewline
      cases room with
      | zero => rfl
      | succ room =>
          unfold copyLine
          rw [if_neg (Ne.symm noNewline.1), ih noNewline.2]
          rfl

/-! ### The parts of the file, line by line -/

def fileLines (fp : List Char) : List (List Char) := (fp.takeWhile (· ≠ EOF)).splitOn '\n'

def opens (line : List Char) : Option FilteredFile :=
  [FilteredFile.ifconfigFile, .routeFile].find? fun part => (startToken part).isPrefixOf line

/-- The line does not close the part. -/
def goesOn (part : FilteredFile) (line : List Char) : Bool := !(endToken part).isPrefixOf line

/-- What is copied of a line in a part: blank lines and comments are left out. -/
def copied (line : List Char) : List Char := if line.head?.any isalnum then line ++ ['\n'] else []

/-- The part that is open, and the text of each part -/
structure LineScan where
  opened : Option FilteredFile
  texts : FilteredFile → Option (List Char)

def LineScan.next (scan : LineScan) (line : List Char) : LineScan :=
  match scan.opened with
  | none =>
      match opens line with
      | none => scan
      | some part => ⟨some part, Function.update scan.texts part (some (line ++ ['\n']))⟩
  | some part =>
      if goesOn part line then
        { scan with texts := Function.update scan.texts part ((scan.texts part).map (· ++ copied line)) }
      else { scan with opened := none }

def scanLines (fp : List Char) : LineScan :=
  (fileLines fp).foldl LineScan.next ⟨none, fun _ => none⟩

theorem newline_not_mem_endToken (part : FilteredFile) : '\n' ∉ endToken part := by
  cases part <;> decide

theorem eof_not_mem_endToken (part : FilteredFile) : EOF ∉ endToken part := by
  cases part <;> decide

variable {part : FilteredFile}

theorem closes_first {line : List Char}
    (closes : (endToken part).isPrefixOf line = true) : line.head?.any isalnum = true := by
  obtain ⟨rest, rfl⟩ := List.isPrefixOf_iff_prefix.mp closes
  cases part <;> rfl

theorem skipLines_first {line : List Char} (first : line.head?.any isalnum = true) (rest : List Char) :
    skipLines false (line ++ rest) = .ok (line ++ rest) := by
  cases line with
  | nil => cases first
  | cons c line => exact skipLines_stops (by simpa using first) (line ++ rest)

theorem streq_line {token : List Char} (newline : '\n' ∉ token) (eof : EOF ∉ token) (line : List Char)
    (lines : List (List Char)) (rest : List Char) :
    streq (line ++ afterLine lines (EOF :: rest)) token = .ok (token.isPrefixOf line) := by
  cases lines with
  | nil => exact streq_append eof line rest
  | cons next lines => exact streq_append newline line _

theorem copyLines_closes {memory : Nat → Char} {line : List Char}
    {lines : List (List Char)} (closes : (endToken part).isPrefixOf line = true) {filterFile : List Char}
    (fits : filterFile.length < MAX_FILESIZE) (fuel : Nat) (rest : List Char) :
    copyLines memory (endToken part) (fuel + 1) filterFile (line ++ afterLine lines (EOF :: rest)) =
      .ok (newArray memory filterFile, line ++ afterLine lines (EOF :: rest)) := by
  unfold copyLines
  rw [skipLines_first (closes_first closes)]
  change (streq _ _ >>= _) = _
  rw [streq_line (newline_not_mem_endToken part) (eof_not_mem_endToken part), closes]
  exact if_pos fits

variable {fuel : Nat}

/-- The lines up to the one that closes the part are copied; if there is none, the loop runs out of
the array. -/
theorem copyLines_lines {memory : Nat → Char} {rest : List Char}
    (ends : '\n' ∉ EOF :: rest) {line : List Char} {lines : List (List Char)}
    (plain : ∀ l ∈ line :: lines, '\n' ∉ l) (enough : lines.length < fuel)
    {filterFile : List Char}
    (fits : filterFile.length + (line ++ afterLine lines (EOF :: rest)).length ≤ MAX_FILESIZE) :
    copyLines memory (endToken part) fuel filterFile (line ++ afterLine lines (EOF :: rest)) =
      match (line :: lines).dropWhile (goesOn part) with
      | [] => .error .outOfBounds
      | last :: after => .ok
          (newArray memory (filterFile ++ ((line :: lines).takeWhile (goesOn part)).flatMap copied),
            last ++ afterLine after (EOF :: rest)) := by
  induction lines generalizing line fuel filterFile with
  | nil =>
      obtain ⟨fuel, rfl⟩ := Nat.exists_eq_add_one.mpr enough
      have noNewline := plain line List.mem_cons_self
      have noMore : '\n' ∉ line ++ EOF :: rest := fun inside =>
        (List.mem_append.mp inside).elim noNewline ends
      cases closes : (endToken part).isPrefixOf line with
      | true =>
          rw [List.length_append] at fits
          rw [copyLines_closes closes (by simp only [afterLine, List.length_cons] at fits; omega)]
          simp [goesOn, closes]
      | false =>
          have goes : goesOn part line = true := by simp [goesOn, closes]
          simp only [List.dropWhile_cons_of_pos goes, List.dropWhile_nil]
          unfold copyLines
          cases first : line.head?.any isalnum with
          | true =>
              rw [skipLines_first first]
              change (streq _ _ >>= _) = _
              rw [streq_line (newline_not_mem_endToken part) (eof_not_mem_endToken part), closes]
              change (copyLine _ (line ++ EOF :: rest) >>= _) = _
              rw [copyLine_end noMore]
              rfl
          | false =>
              change (skipLines false (line ++ EOF :: rest) >>= _) = _
              rw [skipLines_end noMore]
              · rfl
              · cases line with
                | nil => rfl
                | cons c line => exact first
  | cons next lines ih =>
      have noNewline := plain line List.mem_cons_self
      have plain' : ∀ l ∈ next :: lines, '\n' ∉ l := fun l member => plain l (List.mem_cons_of_mem line member)
      simp only [afterLine, List.length_append, List.length_cons] at fits enough
      cases closes : (endToken part).isPrefixOf line with
      | true =>
          obtain ⟨fuel, rfl⟩ := Nat.exists_eq_add_one.mpr (Nat.zero_lt_of_lt enough)
          rw [copyLines_closes closes (by omega)]
          simp [goesOn, closes]
      | false =>
          have goes : goesOn part line = true := by simp [goesOn, closes]
          rw [List.dropWhile_cons_of_pos goes, List.takeWhile_cons_of_pos goes, List.flatMap_cons]
          cases first : line.head?.any isalnum with
          | true =>
              obtain ⟨fuel, rfl⟩ := Nat.exists_eq_add_one.mpr (Nat.zero_lt_of_lt enough)
              have kept : copied line = line ++ ['\n'] := if_pos first
              have further : lines.length < fuel := Nat.lt_of_succ_lt_succ enough
              rw [kept, ← List.append_assoc filterFile]
              refine Eq.trans ?_ (ih plain' further ?_)
              · conv_lhs => unfold copyLines
                rw [skipLines_first first]
                change (streq _ _ >>= _) = _
                rw [streq_line (newline_not_mem_endToken part) (eof_not_mem_endToken part), closes]
                change (copyLine _ (line ++ '\n' :: (next ++ afterLine lines (EOF :: rest))) >>= _) = _
                rw [copyLine_line noNewline (by omega)]
                rfl
              · simp only [List.length_append, List.length_cons, List.length_nil]
                omega
          | false =>
              have left : copied line = [] := if_neg (by simp [first])
              have further : lines.length < fuel := Nat.lt_of_succ_lt enough
              rw [left, List.nil_append]
              refine Eq.trans ?_ (ih plain' further ?_)
              · obtain ⟨fuel, rfl⟩ := Nat.exists_eq_add_one.mpr (Nat.zero_lt_of_lt enough)
                unfold copyLines
                have skips : skipLines false (line ++ afterLine (next :: lines) (EOF :: rest)) =
                    skipLines false (next ++ afterLine lines (EOF :: rest)) :=
                  skipLines_line noNewline first _
                rw [skips]
              · simp only [List.length_append]
                omega

theorem newline_not_mem_startToken (part : FilteredFile) : '\n' ∉ startToken part := by
  cases part <;> decide

theorem eof_not_mem_startToken (part : FilteredFile) : EOF ∉ startToken part := by
  cases part <;> decide

section

variable {memory : FilteredFile → Nat → Char} {files : FilteredFile → Option (List Char)}
  {rest line : List Char} {lines : List (List Char)}

theorem filterPart_other (other : (startToken part).isPrefixOf line = false) :
    filterPart memory part files (line ++ afterLine lines (EOF :: rest)) =
      .ok (files, line ++ afterLine lines (EOF :: rest)) := by
  unfold filterPart
  rw [streq_line (newline_not_mem_startToken part) (eof_not_mem_startToken part), other]
  rfl

theorem filterPart_opens (opens : (startToken part).isPrefixOf line = true)
    (ends : '\n' ∉ EOF :: rest) (plain : ∀ l ∈ line :: lines, '\n' ∉ l)
    (fits : (line ++ afterLine lines (EOF :: rest)).length ≤ MAX_FILESIZE) :
    filterPart memory part files (line ++ afterLine lines (EOF :: rest)) =
      match (line :: lines).dropWhile (goesOn part) with
      | [] => .error .outOfBounds
      | last :: after => .ok
          (Function.update files part (some (newArray (memory part)
            (((line :: lines).takeWhile (goesOn part)).flatMap copied))),
            last ++ afterLine after (EOF :: rest)) := by
  have enough : lines.length < (line ++ afterLine lines (EOF :: rest)).length := by
    have long := length_lines_le lines (EOF :: rest)
    rw [List.length_cons] at long
    rw [List.length_append]
    omega
  have copies : copyLines (memory part) (endToken part) _ [] (line ++ afterLine lines (EOF :: rest)) = _ :=
    copyLines_lines ends plain enough (by simpa using fits)
  unfold filterPart createFilteredFile
  rw [streq_line (newline_not_mem_startToken part) (eof_not_mem_startToken part), opens]
  change (copyLines _ _ _ _ _ >>= _) = _
  rw [copies]
  cases (line :: lines).dropWhile (goesOn part) with
  | nil => rfl
  | cons last after => rfl

theorem not_opens_of_closes (part' : FilteredFile)
    (closes : (endToken part).isPrefixOf line = true) : (startToken part').isPrefixOf line = false := by
  obtain ⟨rest, rfl⟩ := List.isPrefixOf_iff_prefix.mp closes
  cases part <;> cases part' <;> rfl

theorem opens_eq_none : opens line = none ↔ ∀ part, (startToken part).isPrefixOf line = false := by
  unfold opens
  rw [List.find?_eq_none]
  constructor
  · intro none part
    exact Bool.eq_false_of_not_eq_true (none part (by cases part <;> simp))
  · intro none part _
    rw [none part]
    exact Bool.false_ne_true

theorem opens_eq_some : opens line = some part ↔ (startToken part).isPrefixOf line = true ∧
      (part = .routeFile → (startToken .ifconfigFile).isPrefixOf line = false) := by
  unfold opens
  cases first : (startToken .ifconfigFile).isPrefixOf line with
  | true => cases part <;> simp [first]
  | false =>
      cases second : (startToken .routeFile).isPrefixOf line <;> cases part <;> simp [first, second]

theorem filterLine_line (ends : '\n' ∉ EOF :: rest) (plain : ∀ l ∈ line :: lines, '\n' ∉ l)
    (fits : (line ++ afterLine lines (EOF :: rest)).length ≤ MAX_FILESIZE) :
    filterLine memory files (line ++ afterLine lines (EOF :: rest)) =
      match opens line with
      | none => .ok (files, line ++ afterLine lines (EOF :: rest))
      | some part =>
          match (line :: lines).dropWhile (goesOn part) with
          | [] => .error .outOfBounds
          | last :: after => .ok
              (Function.update files part (some (newArray (memory part)
                (((line :: lines).takeWhile (goesOn part)).flatMap copied))),
                last ++ afterLine after (EOF :: rest)) := by
  unfold filterLine
  cases opened : opens line with
  | none =>
      have other := opens_eq_none.mp opened
      rw [filterPart_other (other .ifconfigFile)]
      exact filterPart_other (other .routeFile)
  | some part =>
      obtain ⟨begins, second⟩ := opens_eq_some.mp opened
      cases part with
      | ifconfigFile =>
          rw [filterPart_opens begins ends plain fits]
          dsimp only
          cases split : (line :: lines).dropWhile (goesOn .ifconfigFile) with
          | nil => rfl
          | cons last after =>
              have closes : goesOn .ifconfigFile last = false := by
                have first := List.head?_dropWhile_not (goesOn .ifconfigFile) (line :: lines)
                rw [split] at first
                exact first
              have closes' : (endToken .ifconfigFile).isPrefixOf last = true := by
                simpa [goesOn] using closes
              exact filterPart_other (not_opens_of_closes .routeFile closes')
      | routeFile =>
          rw [filterPart_other (second rfl)]
          exact filterPart_opens begins ends plain fits

theorem filterFiles_rest (noNewline : '\n' ∉ line) (noEnd : EOF ∉ line)
    (enough : line.length < fuel) :
    filterFiles memory fuel false files (line ++ afterLine lines (EOF :: rest)) =
      match lines with
      | [] => .ok files
      | next :: lines => filterFiles memory (fuel - line.length - 1) true files
          (next ++ afterLine lines (EOF :: rest)) := by
  induction line generalizing fuel with
  | nil =>
      obtain ⟨fuel, rfl⟩ := Nat.exists_eq_add_one.mpr enough
      cases lines with
      | nil => rfl
      | cons next lines => rfl
  | cons c line ih =>
      obtain ⟨fuel, rfl⟩ := Nat.exists_eq_add_one.mpr (Nat.zero_lt_of_lt enough)
      rw [List.mem_cons, not_or] at noNewline noEnd
      have more := Nat.lt_of_succ_lt_succ enough
      rw [List.cons_append, List.length_cons, Nat.add_sub_add_right, ← ih noNewline.2 noEnd.2 more]
      conv_lhs => unfold filterFiles
      rw [if_neg (Ne.symm noEnd.1)]
      change filterFiles memory fuel (c = '\n') files _ = _
      rw [decide_eq_false (Ne.symm noNewline.1)]

def arrays (memory : FilteredFile → Nat → Char) (texts : FilteredFile → Option (List Char)) :
    FilteredFile → Option (List Char) := fun part => (texts part).map (newArray (memory part))

theorem arrays_update (texts : FilteredFile → Option (List Char)) (part : FilteredFile) (text : List Char) :
    arrays memory (Function.update texts part (some text)) =
      Function.update (arrays memory texts) part (some (newArray (memory part) text)) := by
  funext part'
  unfold arrays
  by_cases same : part' = part
  · subst same
    rw [Function.update_self, Function.update_self]
    rfl
  · rw [Function.update_of_ne same, Function.update_of_ne same]

variable {texts : FilteredFile → Option (List Char)}

theorem foldl_opened {text : List Char}
    (begun : texts part = some text) : lines.foldl LineScan.next ⟨some part, texts⟩ =
      let texts := Function.update texts part
        (some (text ++ (lines.takeWhile (goesOn part)).flatMap copied))
      match lines.dropWhile (goesOn part) with
      | [] => ⟨some part, texts⟩
      | _ :: after => after.foldl LineScan.next ⟨none, texts⟩ := by
  induction lines generalizing texts text with
  | nil =>
      simp [← begun]
  | cons line lines ih =>
      rw [List.foldl_cons]
      cases goes : goesOn part line with
      | true =>
          have next : LineScan.next ⟨some part, texts⟩ line =
              ⟨some part, Function.update texts part (some (text ++ copied line))⟩ := by
            unfold LineScan.next
            dsimp only
            rw [if_pos goes, begun]
            rfl
          rw [next, ih (Function.update_self part _ texts), List.dropWhile_cons_of_pos goes,
            List.takeWhile_cons_of_pos goes, List.flatMap_cons, Function.update_idem, List.append_assoc]
      | false =>
          have stops : ¬ goesOn part line = true := by simp [goes]
          have next : LineScan.next ⟨some part, texts⟩ line = ⟨none, texts⟩ := by
            unfold LineScan.next
            dsimp only
            rw [if_neg stops]
          rw [next, List.dropWhile_cons_of_neg stops, List.takeWhile_cons_of_neg stops, List.flatMap_nil,
            List.append_nil, ← begun, Function.update_eq_self]

/-- How the loop ends: with the arrays, or outside the array if a part is left open. -/
def filtered (memory : FilteredFile → Nat → Char) (scan : LineScan) :
    ParserExec (FilteredFile → Option (List Char)) :=
  if scan.opened = none then .ok (arrays memory scan.texts) else .error .outOfBounds

theorem opens_first (opened : opens line = some part) : goesOn part line = true ∧ copied line = line ++ ['\n'] := by
  have begins := (opens_eq_some.mp opened).1
  constructor
  · unfold goesOn
    rw [Bool.not_eq_true']
    refine Bool.eq_false_of_not_eq_true fun closes => ?_
    exact absurd (begins.symm.trans (not_opens_of_closes part closes)) Bool.noConfusion
  · obtain ⟨rest, rfl⟩ := List.isPrefixOf_iff_prefix.mp begins
    cases part <;> rfl

theorem filterFiles_onward {scan : LineScan} (plain : '\n' ∉ line ∧ EOF ∉ line)
    (enough : (line ++ afterLine lines (EOF :: rest)).length ≤ fuel) (last : lines = [] → scan = ⟨none, texts⟩)
    (next : ∀ (next : List Char) (lines' : List (List Char)) (fuel : Nat), lines = next :: lines' →
      (next ++ afterLine lines' (EOF :: rest)).length ≤ fuel →
        filterFiles memory fuel true (arrays memory texts) (next ++ afterLine lines' (EOF :: rest)) =
          filtered memory scan) :
    filterFiles memory fuel false (arrays memory texts) (line ++ afterLine lines (EOF :: rest)) =
      filtered memory scan := by
  rw [List.length_append] at enough
  cases lines with
  | nil =>
      have more : line.length < fuel := by
        simp only [afterLine, List.length_cons] at enough
        omega
      rw [filterFiles_rest plain.1 plain.2 more, last rfl]
      rfl
  | cons next' lines =>
      simp only [afterLine, List.length_cons] at enough
      rw [filterFiles_rest plain.1 plain.2 (by omega)]
      exact next next' lines _ rfl (by omega)

theorem filterFiles_start {c : Char} (inside : c ≠ EOF) (file : List Char) (fuel : Nat) :
    filterFiles memory (fuel + 1) true files (c :: file) = (do
      let (files, file) ← filterLine memory files (c :: file)
      match file with
      | [] => .error .outOfBounds
      | c :: file => filterFiles memory fuel (c = '\n') files file) := by
  conv_lhs => unfold filterFiles
  rw [if_neg inside]
  rfl

theorem filterFiles_lines (ends : '\n' ∉ EOF :: rest) (plain : ∀ l ∈ line :: lines, '\n' ∉ l ∧ EOF ∉ l)
    (fits : (line ++ afterLine lines (EOF :: rest)).length ≤ MAX_FILESIZE)
    (enough : (line ++ afterLine lines (EOF :: rest)).length ≤ fuel) :
    filterFiles memory fuel true (arrays memory texts) (line ++ afterLine lines (EOF :: rest)) =
      filtered memory ((line :: lines).foldl LineScan.next ⟨none, texts⟩) := by
  induction size : lines.length using Nat.strong_induction_on generalizing line lines texts fuel with
  | _ size ih =>
  -- the lines behind one from which the loop goes on
  have later {last : List Char} {after : List (List Char)} (suffix : last :: after <:+ line :: lines)
      (texts : FilteredFile → Option (List Char)) (next : List Char) (lines' : List (List Char)) (fuel : Nat)
      (split : after = next :: lines') (enough : (next ++ afterLine lines' (EOF :: rest)).length ≤ fuel) :
      filterFiles memory fuel true (arrays memory texts) (next ++ afterLine lines' (EOF :: rest)) =
        filtered memory (after.foldl LineScan.next ⟨none, texts⟩) := by
    subst split
    have further : next :: lines' <:+ line :: lines := (List.suffix_cons last _).trans suffix
    have shorter := suffix.length_le
    simp only [List.length_cons] at shorter
    refine ih lines'.length (by omega) (fun l member => plain l (further.subset member)) ?_ enough rfl
    exact (suffix_of_lines further _).length_le.trans fits
  have long := length_lines_le lines (EOF :: rest)
  rw [List.length_append] at enough
  simp only [List.length_cons] at long
  obtain ⟨fuel, rfl⟩ := Nat.exists_eq_add_one.mpr (show 0 < fuel by omega)
  have begins : filterLine memory (arrays memory texts) (line ++ afterLine lines (EOF :: rest)) = _ :=
    filterLine_line ends (fun l member => (plain l member).1) fits
  have inLine {c : Char} {l : List Char} (starts : line = c :: l) : c ≠ '\n' ∧ c ≠ EOF ∧ '\n' ∉ l ∧ EOF ∉ l := by
    have noneOf := plain line List.mem_cons_self
    rw [starts, List.mem_cons, List.mem_cons, not_or, not_or] at noneOf
    exact ⟨Ne.symm noneOf.1.1, Ne.symm noneOf.2.1, noneOf.1.2, noneOf.2.2⟩
  cases opened : opens line with
  | none =>
      rw [opened] at begins
      have stays : LineScan.next ⟨none, texts⟩ line = ⟨none, texts⟩ := by
        unfold LineScan.next
        rw [opened]
      rw [List.foldl_cons, stays]
      cases line with
      | nil =>
          cases lines with
          | nil => rfl
          | cons next lines =>
              simp only [afterLine, List.length_cons] at enough
              change filterFiles memory (fuel + 1) true _ ('\n' :: _) = _
              rw [filterFiles_start (by decide)]
              change (filterLine memory _ ([] ++ afterLine (next :: lines) (EOF :: rest)) >>= _) = _
              rw [begins]
              exact later List.suffix_rfl texts next lines fuel rfl (by omega)
      | cons c l =>
          obtain ⟨notNewline, notEnd, inside⟩ := inLine rfl
          simp only [List.length_cons] at enough
          change filterFiles memory (fuel + 1) true _ (c :: (l ++ _)) = _
          rw [filterFiles_start notEnd]
          change (filterLine memory _ ((c :: l) ++ afterLine lines (EOF :: rest)) >>= _) = _
          rw [begins]
          change filterFiles memory fuel (c = '\n') _ (l ++ afterLine lines (EOF :: rest)) = _
          rw [decide_eq_false notNewline]
          refine filterFiles_onward inside ?_ (fun nil => ?_) (later List.suffix_rfl texts)
          · rw [List.length_append]
            omega
          · rw [nil]
            rfl
  | some part =>
      rw [opened] at begins
      obtain ⟨goes, kept⟩ := opens_first opened
      have starts : LineScan.next ⟨none, texts⟩ line =
          ⟨some part, Function.update texts part (some (line ++ ['\n']))⟩ := by
        unfold LineScan.next
        rw [opened]
      rw [List.foldl_cons, starts, foldl_opened (Function.update_self part _ texts), Function.update_idem]
      dsimp only at begins ⊢
      rw [List.dropWhile_cons_of_pos goes, List.takeWhile_cons_of_pos goes, List.flatMap_cons, kept] at begins
      cases line with
      | nil => cases opened
      | cons c l =>
          obtain ⟨notNewline, notEnd, -⟩ := inLine rfl
          change filterFiles memory (fuel + 1) true _ (c :: (l ++ _)) = _
          rw [filterFiles_start notEnd]
          change (filterLine memory _ ((c :: l) ++ afterLine lines (EOF :: rest)) >>= _) = _
          rw [begins]
          cases split : lines.dropWhile (goesOn part) with
          | nil => rfl
          | cons last after =>
              have closes : (endToken part).isPrefixOf last = true := by
                have first := List.head?_dropWhile_not (goesOn part) lines
                rw [split] at first
                have ended : goesOn part last = false := first
                simpa [goesOn] using ended
              have suffix : last :: after <:+ (c :: l) :: lines := by
                rw [← split]
                exact (List.dropWhile_suffix _).trans (List.suffix_cons _ _)
              have shorter := (suffix_of_lines suffix (EOF :: rest)).length_le
              rw [← arrays_update]
              cases last with
              | nil => cases closes_first closes
              | cons d last =>
                  have noneOf := plain (d :: last) (suffix.subset List.mem_cons_self)
                  rw [List.mem_cons, List.mem_cons, not_or, not_or] at noneOf
                  change filterFiles memory fuel (d = '\n') _ (last ++ afterLine after (EOF :: rest)) = _
                  rw [decide_eq_false (Ne.symm noneOf.1.1)]
                  refine filterFiles_onward ⟨noneOf.1.2, noneOf.2.2⟩ ?_ (fun nil => ?_) (later suffix _)
                  · simp only [List.length_append, List.length_cons] at shorter enough ⊢
                    omega
                  · rw [nil]
                    rfl

end

theorem readFile_eq {fp : List Char} {room : Nat} (short : fp.length < room) : ∃ padding,
    readFile room fp = .ok (fp.takeWhile (· ≠ EOF) ++ EOF :: List.replicate padding NUL) ∧
      (fp.takeWhile (· ≠ EOF) ++ EOF :: List.replicate padding NUL).length = room := by
  induction fp generalizing room with
  | nil =>
      obtain ⟨room, rfl⟩ := Nat.exists_eq_add_one.mpr short
      exact ⟨room, rfl, by simp⟩
  | cons c fp ih =>
      obtain ⟨room, rfl⟩ := Nat.exists_eq_add_one.mpr (Nat.zero_lt_of_lt short)
      by_cases ended : c = EOF
      · refine ⟨room, ?_, ?_⟩
        · unfold readFile
          rw [if_pos ended, List.takeWhile_cons_of_neg (by simpa using ended)]
          rfl
        · rw [List.takeWhile_cons_of_neg (by simpa using ended)]
          simp
      · obtain ⟨padding, reads, length⟩ := ih (Nat.lt_of_succ_lt_succ short)
        refine ⟨padding, ?_, ?_⟩
        · unfold readFile
          rw [if_neg ended, reads, List.takeWhile_cons_of_pos (by simpa using ended)]
          rfl
        · rw [List.takeWhile_cons_of_pos (by simpa using ended), List.cons_append, List.length_cons, length]

/-- For a file that fits into the array the loop ends with the texts of its parts. -/
theorem filterFiles_eq (memory : FilteredFile → Nat → Char) {fp : List Char}
    (short : fp.length < MAX_FILESIZE) :
    (do let file ← readFile MAX_FILESIZE fp
        filterFiles memory (file.length + 1) true (fun _ => none) file) =
      filtered memory (scanLines fp) := by
  obtain ⟨padding, reads, length⟩ := readFile_eq short
  obtain ⟨line, lines, split, same⟩ := exists_lines (fp.takeWhile (· ≠ EOF))
  have plain : ∀ l ∈ line :: lines, '\n' ∉ l ∧ EOF ∉ l := by
    intro l member
    rw [← split] at member
    have inside {c : Char} (c_mem : c ∈ l) := mem_splitOn.mp ⟨l, member, c_mem⟩
    refine ⟨fun newline => (inside newline).2 rfl, fun eof => ?_⟩
    have kept := List.mem_takeWhile_imp (inside eof).1
    simp at kept
  have ends : '\n' ∉ EOF :: List.replicate padding NUL := by
    rw [List.mem_cons, List.mem_replicate]
    rintro (eof | ⟨-, nul⟩)
    · exact absurd eof (by decide)
    · exact absurd nul (by decide)
  have filters : filterFiles memory _ true (arrays memory fun _ => none) _ = _ :=
    filterFiles_lines ends plain (le_of_eq ((congrArg List.length (same _)).symm.trans length)) (Nat.le_succ _)
  rw [reads]
  change filterFiles memory _ true _ (_ ++ EOF :: List.replicate padding NUL) = _
  rw [same]
  unfold scanLines fileLines
  rw [split]
  exact filters

end RoutingTableParser

end IPv6Suite
