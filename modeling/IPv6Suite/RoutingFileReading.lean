import IPv6Suite.RoutingFileEntries

namespace IPv6Suite

open Lib

open Lib.TextParts (words)

namespace RoutingTableParser

/-! ### The texts of the parts -/

structure PartText (part : FilteredFile) (text : List Char) : Prop where
  begins : startToken part <+: text
  ends : Ends text

theorem Ends.append {text line : List Char} (ends : Ends text) (ends' : Ends line) : Ends (text ++ line) := by
  rcases ends' with none | last
  · rw [none, List.append_nil]
    exact ends
  · rw [Ends, List.getLast?_append, Option.mem_def.mp last]
    exact Or.inr rfl

theorem ends_line (line : List Char) : Ends (line ++ ['\n']) := Or.inr (by simp)

theorem ends_copied (line : List Char) : Ends (copied line) := by
  unfold copied
  split
  · exact ends_line line
  · exact Or.inl rfl

theorem LineScan.next_partText {scan : LineScan}
    (texts : ∀ part, ∀ text ∈ scan.texts part, PartText part text) (line : List Char) :
    ∀ part, ∀ text ∈ (scan.next line).texts part, PartText part text := by
  have updated (opened : FilteredFile) (new : Option (List Char)) (kept : ∀ text ∈ new, PartText opened text) :
      ∀ part, ∀ text ∈ Function.update scan.texts opened new part, PartText part text := by
    intro part
    by_cases same : part = opened
    · rw [same, Function.update_self]
      exact kept
    · rw [Function.update_of_ne same]
      exact texts part
  unfold LineScan.next
  cases opened : scan.opened with
  | none =>
      cases opens' : opens line with
      | none => exact texts
      | some part =>
          refine updated part _ fun text text_eq => ?_
          rw [← Option.some.inj text_eq]
          have begins := List.isPrefixOf_iff_prefix.mp (opens_eq_some.mp opens').1
          exact ⟨begins.trans (List.prefix_append line _), ends_line line⟩
  | some part =>
      dsimp only
      split
      · refine updated part _ fun text text_eq => ?_
        obtain ⟨text', kept, rfl⟩ := Option.map_eq_some_iff.mp text_eq
        have before := texts part text' kept
        exact ⟨before.begins.trans (List.prefix_append text' _), before.ends.append (ends_copied line)⟩
      · exact texts

theorem scanLines_partText (fp : List Char) : ∀ part, ∀ text ∈ (scanLines fp).texts part, PartText part text := by
  have kept (lines : List (List Char)) {scan : LineScan}
      (texts : ∀ part, ∀ text ∈ scan.texts part, PartText part text) :
      ∀ part, ∀ text ∈ (lines.foldl LineScan.next scan).texts part, PartText part text := by
    induction lines generalizing scan with
    | nil => exact texts
    | cons line lines ih => exact ih (LineScan.next_partText texts line)
  exact kept (fileLines fp) fun part text none => absurd none (Option.not_mem_none text)

/-! ### The whole file -/

def fileEntries (fp : List Char) : List (IfconfigToken × List Char) :=
  ((scanLines fp).texts .ifconfigFile).elim [] (entriesFrom 0)

def fileRows (fp : List Char) : List (List (List Char)) :=
  ((scanLines fp).texts .routeFile).elim [] fun text =>
    rows (words (text.drop (startToken .routeFile).length))

/-- Every part that the file opens is closed, the entries of the interfaces fit and, if none of them raises an
error, the rows of the routing table do. -/
structure Readable (p : RoutingTableParser) (fp : List Char) : Prop where
  closed : (scanLines fp).opened = none
  entries : EntriesFit p.entryRaises false (fileEntries fp)
  rows : (fileEntries fp).any p.entryRaises = true ∨ p.RowsFit (fileRows fp)

theorem readable_iff {p : RoutingTableParser} {fp : List Char} : p.Readable fp ↔
    ((scanLines fp).opened = none ∧ EntriesFit p.entryRaises false (fileEntries fp)) ∧
      ((fileEntries fp).any p.entryRaises = true ∨ p.RowsFit (fileRows fp)) :=
  ⟨fun readable => ⟨⟨readable.closed, readable.entries⟩, readable.rows⟩,
    fun parts => ⟨parts.1.1, parts.1.2, parts.2⟩⟩

instance (p : RoutingTableParser) (fp : List Char) : Decidable (p.Readable fp) := decidable_of_iff' _ readable_iff

section

variable {p : RoutingTableParser} {fp : List Char}

/-- Where the memory holds no blanks -/
def BlankFree (memory : FilteredFile → Nat → Char) : Prop := ∀ part i, isspace (memory part i) = false

theorem newArray_eq (memory : Nat → Char) (text : List Char) : ∃ array, newArray memory text = text ++ NUL :: array ∧
    ∀ c ∈ array, ∃ i, memory i = c := by
  refine ⟨_, rfl, fun c member => ?_⟩
  obtain ⟨i, -, same⟩ := List.mem_map.mp member
  exact ⟨_, same⟩

theorem newArray_noBlank {memory : FilteredFile → Nat → Char} (part : FilteredFile) (text : List Char) :
    ∃ array, newArray (memory part) text = text ++ NUL :: array ∧ (BlankFree memory → NoBlank array) := by
  obtain ⟨array, same, inside⟩ := newArray_eq (memory part) text
  refine ⟨array, same, fun free c member => ?_⟩
  obtain ⟨i, rfl⟩ := inside c member
  exact free part i

theorem decides_routeFile (memory : FilteredFile → Nat → Char) :
    Decides (BlankFree memory)
      (match arrays memory (scanLines fp).texts .routeFile with
        | some routeFile => p.parseRouting routeFile
        | none => pure p)
      (p.RowsFit (fileRows fp)) := by
  have parts := scanLines_partText fp .routeFile
  unfold arrays fileRows
  cases route : (scanLines fp).texts .routeFile with
  | none => exact .returned p
  | some text =>
      have part := parts text route
      obtain ⟨array, same, free⟩ := @newArray_noBlank memory .routeFile text
      have reads := (@decides_routing p array text part.ends part.begins).mono free
      rw [← same] at reads
      exact reads

theorem decides_ifconfigFile (memory : FilteredFile → Nat → Char) {cond : Prop}
    {next : RoutingTableParser → ParserExec RoutingTableParser}
    (rest : ∀ settings, Decides (BlankFree memory) (next { p with settings }) cond) :
    Decides (BlankFree memory)
      ((match arrays memory (scanLines fp).texts .ifconfigFile with
        | some ifconfigFile => p.parseInterfaces ifconfigFile
        | none => pure p) >>= next)
      (EntriesFit p.entryRaises false (fileEntries fp) ∧
        ((fileEntries fp).any p.entryRaises = true ∨ cond)) := by
  have parts := scanLines_partText fp .ifconfigFile
  unfold arrays fileEntries
  cases ifconfig : (scanLines fp).texts .ifconfigFile with
  | none => exact (rest p.settings).congr (by simp [EntriesFit])
  | some text =>
      have part := parts text ifconfig
      obtain ⟨array, same, free⟩ := @newArray_noBlank memory .ifconfigFile text
      have reads := decides_interfaces free part.ends rest
      rw [← same] at reads
      exact reads

/-- With any memory the file is read inside the arrays if it is readable, and if the memory holds no blanks
only then. -/
theorem decides_readRoutingTableFromFile (short : fp.length < MAX_FILESIZE) (memory : FilteredFile → Nat → Char) :
    Decides (BlankFree memory) (p.readRoutingTableFromFile memory (some fp)) (p.Readable fp) := by
  have filters := filterFiles_eq memory short
  have parses : p.readRoutingTableFromFile memory (some fp) = filtered memory (scanLines fp) >>= fun files =>
      (match files .ifconfigFile with
        | some ifconfigFile => p.parseInterfaces ifconfigFile
        | none => pure p) >>= fun p =>
      match files .routeFile with
        | some routeFile => p.parseRouting routeFile
        | none => pure p := by
    rw [← filters, bind_assoc]
    unfold readRoutingTableFromFile
    refine bind_congr fun file => bind_congr fun files => ?_
    cases files .ifconfigFile <;> rfl
  rw [parses]
  unfold filtered
  by_cases closed : (scanLines fp).opened = none
  · rw [if_pos closed]
    have reads := @decides_ifconfigFile p fp memory (p.RowsFit (fileRows fp))
      (fun p => match arrays memory (scanLines fp).texts .routeFile with
        | some routeFile => p.parseRouting routeFile
        | none => pure p)
      fun settings => (@decides_routeFile { p with settings } fp memory).congr
        (@rowsFit_eq p { p with settings } rfl _)
    refine Decides.congr reads ?_
    · exact ⟨fun fit => ⟨closed, fit.1, fit.2⟩, fun readable => ⟨readable.entries, readable.rows⟩⟩
  · rw [if_neg closed]
    exact (Decides.escapes fun _ => rfl).congr (iff_of_false id fun readable => closed readable.closed)

/-- Whatever is in the memory of its arrays, the parser ends with a table or an error and stays inside them,
exactly for the readable files. -/
theorem contained_iff_readable (short : fp.length < MAX_FILESIZE) :
    (∀ memory, Contained (p.readRoutingTableFromFile memory (some fp))) ↔ p.Readable fp := by
  constructor
  · intro contained
    exact (decides_readRoutingTableFromFile short fun _ _ => NUL).needed (fun _ _ => rfl) (contained _)
  · intro readable memory
    exact (decides_readRoutingTableFromFile short memory).enough readable

end

def exampleParser : RoutingTableParser where
  rt := { ift := [⟨"ppp0", 0⟩] }
  settings := fun _ =>
    { inetAddr := .ofBytes 0 0 0 0
      netmask := .ofBytes 0 0 0 0
      metric := 0
      multicastGroups := []
      mtu := 0
      broadcast := false
      multicast := false
      pointToPoint := false }
  ipForward := true
  nextTokens := List.splitOn ':'

def exampleFile : List Char :=
  "ifconfig:\nname: ppp0 MTU: 1500\nifconfigend.\nroute:\n10.0.0.1 * 255.0.0.0 H 0 ppp0\nrouteend.\n".toList

theorem contained_example : exampleFile.length < MAX_FILESIZE ∧
    ∀ memory, Contained (exampleParser.readRoutingTableFromFile memory (some exampleFile)) := by
  constructor
  · decide
  · rw [contained_iff_readable (by decide)]
    decide +kernel

/-- A part without its end token -/
def openFile : List Char := "route:\n".toList

theorem openFile_not_contained : ¬ ∀ (p : RoutingTableParser) (fp : List Char), fp.length < MAX_FILESIZE →
    ∀ memory, Contained (p.readRoutingTableFromFile memory (some fp)) := by
  intro contained
  have readable (fp : List Char) (short : fp.length < MAX_FILESIZE) : exampleParser.Readable fp :=
    (decides_readRoutingTableFromFile short fun _ _ => NUL).needed (fun _ _ => rfl) (contained _ fp short _)
  have closed := (readable openFile (by decide)).closed
  exact absurd closed (by decide)

end RoutingTableParser

end IPv6Suite
