import IPv6Suite.RoutingFileWords

namespace IPv6Suite

open Lib

open Lib.TextParts (words)

namespace RoutingTableParser

/-! ### The checks of the columns report errors and nothing else. -/

theorem address_contained (text : List Char) : Contained (address text) := by
  unfold address
  split <;> exact True.intro

theorem parseHost_contained (str : List Char) : Contained (parseHost str) := by
  unfold parseHost
  exact Ensures.ite (fun _ => True.intro) fun _ =>
    Ensures.ite (fun _ => True.intro) fun _ => address_contained str

theorem parseGateway_contained (str : List Char) : Contained (parseGateway str) := by
  unfold parseGateway
  exact Ensures.ite (fun _ => True.intro) fun _ =>
    Ensures.ite (fun _ => True.intro) fun _ => address_contained str

theorem parseNetmask_contained (str : List Char) : Contained (parseNetmask str) := by
  unfold parseNetmask
  exact Ensures.ite (fun _ => True.intro) fun _ => address_contained str

theorem parseFlags_contained (str : List Char) : Contained (parseFlags str) := by
  unfold parseFlags
  exact Ensures.ite (fun _ => True.intro) fun _ => True.intro

theorem parseReferences_contained (str : List Char) : Contained (parseReferences str) := by
  unfold parseReferences
  exact Ensures.ite (fun _ => True.intro) fun _ => True.intro

variable {p p' : RoutingTableParser}

theorem parseInterfaceName_contained (p : RoutingTableParser) (str : List Char) :
    Contained (p.parseInterfaceName str) := by
  unfold parseInterfaceName
  split <;> exact True.intro

/-! ### Rows -/

/-- The columns of a row, each with the errors that it raises -/
def columns (p : RoutingTableParser) : List (List Char → Bool) :=
  [raisesIn parseHost, raisesIn parseGateway, raisesIn parseNetmask, raisesIn parseFlags,
    raisesIn parseReferences, raisesIn p.parseInterfaceName]

/-- `addRoutingEntry` refuses a row if only one of host and netmask is null. -/
def refusesRow : List (List Char) → Bool
  | host :: _ :: netmask :: _ =>
      match parseHost (cString host), parseNetmask (cString netmask) with
      | .ok host, .ok netmask => (host.isNull || netmask.isNull) && (!host.isNull || !netmask.isNull)
      | _, _ => false
  | _ => false

/-- The words in sixes; the last row may be shorter. -/
def rows : List (List Char) → List (List (List Char))
  | host :: gateway :: netmask :: flags :: references :: name :: ws =>
      [host, gateway, netmask, flags, references, name] :: rows ws
  | [] => []
  | ws => [ws]

def endsTable (row : List (List Char)) : Bool := row.head?.any fun word => word.head? = some NUL

def rowRaises (p : RoutingTableParser) (row : List (List Char)) : Bool :=
  (p.columns.zip row).any (fun column => column.1 column.2) || refusesRow row

def RowFits (p : RoutingTableParser) (row : List (List Char)) : Prop :=
  ColumnsFit p.columns (fun _ => True) row

/-- All rows fit, up to the first for which an error is raised. -/
def RowsFit (p : RoutingTableParser) : List (List (List Char)) → Prop
  | [] => True
  | row :: rows => endsTable row = true ∨ p.RowFits row ∧ (p.rowRaises row = true ∨ RowsFit p rows)

instance (p : RoutingTableParser) (row : List (List Char)) : Decidable (p.RowFits row) :=
  decidableColumnsFit (fun _ => True) p.columns row

instance decidableRowsFit (p : RoutingTableParser) : ∀ rows, Decidable (p.RowsFit rows)
  | [] => inferInstanceAs (Decidable True)
  | row :: rows =>
      have := decidableRowsFit p rows
      inferInstanceAs (Decidable (endsTable row = true ∨ p.RowFits row ∧ (p.rowRaises row = true ∨ p.RowsFit rows)))

theorem columnsFit_append {columns : List (List Char → Bool)} {cond : List (List Char) → Prop}
    {row ws : List (List Char)} (complete : row.length = columns.length) :
    ColumnsFit columns cond (row ++ ws) ↔ ColumnsFit columns (fun _ => True) row ∧
      ((columns.zip row).any (fun column => column.1 column.2) = true ∨ cond ws) := by
  induction columns generalizing row with
  | nil =>
      rw [List.length_eq_zero_iff.mp complete]
      simp [ColumnsFit]
  | cons raises columns ih =>
      cases row with
      | nil => cases complete
      | cons word row =>
          have same := @ih row (Nat.succ.inj complete)
          simp only [List.cons_append, ColumnsFit, same, List.zip_cons_cons, List.any_cons, Bool.or_eq_true]
          tauto

theorem columnsFit_short {columns : List (List Char → Bool)} {cond : List (List Char) → Prop}
    {row : List (List Char)} (short : row.length < columns.length) :
    ColumnsFit columns cond row ↔ ColumnsFit columns (fun _ => True) row := by
  induction columns generalizing row with
  | nil => cases short
  | cons raises columns ih =>
      cases row with
      | nil => exact Iff.rfl
      | cons word row =>
          have same := @ih row (Nat.lt_of_succ_lt_succ short)
          simp only [ColumnsFit, same]

theorem rows_short {ws : List (List Char)} (more : ws ≠ []) (short : ws.length < 6) : rows ws = [ws] := by
  match ws with
  | [] => exact absurd rfl more
  | [_] | [_, _] | [_, _, _] | [_, _, _, _] | [_, _, _, _, _] => rfl
  | _ :: _ :: _ :: _ :: _ :: _ :: ws =>
      simp only [List.length_cons] at short
      omega

theorem rowsFit_iff {ws : List (List Char)} (more : ws ≠ []) : p.RowsFit (rows ws) ↔ endsTable ws = true ∨
      ColumnsFit p.columns (fun ws' => refusesRow ws = true ∨ p.RowsFit (rows ws')) ws := by
  by_cases short : ws.length < 6
  · have few : ws.length < p.columns.length := short
    rw [rows_short more short, columnsFit_short few]
    unfold RowsFit RowFits RowsFit
    tauto
  · match ws with
    | [] | [_] | [_, _] | [_, _, _] | [_, _, _, _] | [_, _, _, _, _] => exact absurd (by simp) short
    | host :: gateway :: netmask :: flags :: references :: name :: ws =>
        have append := @columnsFit_append p.columns (fun ws' => refusesRow
          (host :: gateway :: netmask :: flags :: references :: name :: ws) = true ∨ p.RowsFit (rows ws'))
          [host, gateway, netmask, flags, references, name] ws rfl
        refine Iff.trans ?_ (or_congr_right append.symm)
        change endsTable _ = true ∨ p.RowFits _ ∧ (p.rowRaises _ = true ∨ p.RowsFit (rows ws)) ↔ _
        unfold rowRaises RowFits
        rw [Bool.or_eq_true, or_assoc]
        exact Iff.rfl

theorem parseInterfaceName_eq_ok {str : List Char} {interface : IPv4InterfaceEntry}
    (found : p.parseInterfaceName str = .ok interface) :
    p.rt.interfaceByName (String.ofList str) = some interface := by
  unfold parseInterfaceName at found
  split at found
  · rename_i known
    rw [known, Except.ok.inj found]
  · cases found

theorem addRoutingEntry_contained (rt : RoutingTable) (entry : RoutingEntry) :
    Contained ((rt.addRoutingEntry entry).mapError .routingTable) := by
  cases rt.addRoutingEntry entry <;> exact True.intro

theorem addRoutingEntry_isOk {rt : RoutingTable} {entry : RoutingEntry} {interface : IPv4InterfaceEntry}
    (found : rt.interfaceByName entry.interfaceName = some interface) :
    ((rt.addRoutingEntry entry).mapError ParserFault.routingTable).isOk = false ↔
      ((entry.host.isNull || entry.netmask.isNull) && (!entry.host.isNull || !entry.netmask.isNull)) = true := by
  unfold RoutingTable.addRoutingEntry
  rw [found]
  by_cases refused : (entry.host.isNull ∨ entry.netmask.isNull) ∧
      (¬ entry.host.isNull ∨ ¬ entry.netmask.isNull)
  · rw [if_pos refused]
    exact iff_of_true rfl (by simpa using refused)
  · rw [if_neg refused]
    have kept : ((entry.host.isNull || entry.netmask.isNull) &&
        (!entry.host.isNull || !entry.netmask.isNull)) = false := by simpa using refused
    rw [kept]
    change Except.isOk (Except.mapError _ (if _ then _ else _)) = false ↔ _
    refine iff_of_false ?_ Bool.false_ne_true
    split <;> exact Bool.true_eq_false.mp

theorem addRoutingEntry_ift {rt rt' : RoutingTable} {entry : RoutingEntry}
    (added : (rt.addRoutingEntry entry).mapError ParserFault.routingTable = .ok rt') : rt'.ift = rt.ift := by
  cases adds : rt.addRoutingEntry entry with
  | error fault =>
      rw [adds] at added
      cases added
  | ok rt'' =>
      rw [adds] at added
      obtain ⟨-, -, same, -⟩ := RoutingTable.addRoutingEntry_eq_ok adds
      rw [← Except.ok.inj added]
      exact same

section

variable {array : List Char}

theorem decides_row {α : Type} {text : List Char} (at' : AtWord text)
    {further : RoutingTableParser × List Char → ParserExec α} {cond : List (List Char) → Prop}
    (rest : ∀ rt text', AtWord text' → text'.length < text.length → rt.ift = p.rt.ift →
      Decides (NoBlank array) (further ({ p with rt }, text' ++ NUL :: array)) (cond (words text'))) :
    Decides (NoBlank array) (p.parseRow (text ++ NUL :: array) >>= further)
      (ColumnsFit p.columns (fun ws' => refusesRow (words text) = true ∨ cond ws') (words text)) := by
  unfold parseRow columns
  refine decides_column at' parseHost_contained fun host text₁ at₁ less₁ word₁ split₁ checked₁ => ?_
  refine decides_column at₁ parseGateway_contained fun gateway text₂ at₂ less₂ word₂ split₂ _ => ?_
  refine decides_column at₂ parseNetmask_contained fun netmask text₃ at₃ less₃ word₃ split₃ checked₃ => ?_
  refine decides_column at₃ parseFlags_contained fun _ text₄ at₄ less₄ word₄ split₄ _ => ?_
  refine decides_column at₄ parseReferences_contained fun _ text₅ at₅ less₅ word₅ split₅ _ => ?_
  refine decides_column at₅ p.parseInterfaceName_contained fun interface text₆ at₆ less₆ word₆ split₆ found => ?_
  have refuses : refusesRow (words text) =
      ((host.isNull || netmask.isNull) && (!host.isNull || !netmask.isNull)) := by
    rw [split₁, split₂, split₃]
    unfold refusesRow
    dsimp only
    rw [checked₁, checked₃]
  rw [bind_assoc]
  refine Decides.congr (Decides.check (addRoutingEntry_contained _ _) fun rt added =>
    rest rt text₆ at₆ (by omega) (addRoutingEntry_ift added)) ?_
  unfold ColumnsFit
  rw [refuses, addRoutingEntry_isOk (parseInterfaceName_eq_ok found)]

theorem columns_eq (same : p'.rt.ift = p.rt.ift) : p'.columns = p.columns := by
  have finds : p'.parseInterfaceName = p.parseInterfaceName := by
    funext str
    unfold parseInterfaceName RoutingTable.interfaceByName
    rw [same]
  unfold columns
  rw [finds]

theorem rowsFit_eq (same : p'.rt.ift = p.rt.ift) (rows : List (List (List Char))) :
    p'.RowsFit rows ↔ p.RowsFit rows := by
  have columns := columns_eq same
  induction rows with
  | nil => exact Iff.rfl
  | cons row rows ih =>
      unfold RowsFit RowFits rowRaises
      rw [columns]
      exact or_congr_right (and_congr_right fun _ => or_congr_right ih)

theorem endsTable_words {c : Char} {text : List Char} (at' : AtWord (c :: text)) :
    endsTable (words (c :: text)) = true ↔ c = NUL := by
  have first := at'.first c rfl
  rw [words_eq at' (List.cons_ne_nil c text), List.takeWhile_cons_of_pos (by simpa using first)]
  simp [endsTable]

theorem decides_rows {text : List Char} (at' : AtWord text) {fuel : Nat} (enough : text.length < fuel) :
    Decides (NoBlank array) (parseRows fuel p (text ++ NUL :: array)) (p.RowsFit (rows (words text))) := by
  induction fuel generalizing p text with
  | zero => cases enough
  | succ fuel ih =>
      by_cases nil : text = []
      · subst nil
        exact .returned p
      · have more : words text ≠ [] := fun none => nil (words_eq_nil at' none)
        refine Decides.congr ?_ (rowsFit_iff more).symm
        cases text with
        | nil => exact absurd rfl nil
        | cons c text =>
            rw [List.cons_append]
            unfold parseRows
            by_cases ended : c = NUL
            · rw [if_pos ended]
              exact (Decides.returned p).congr (iff_of_true True.intro (Or.inl ((endsTable_words at').mpr ended)))
            · rw [if_neg ended, or_iff_right (mt (endsTable_words at').mp ended)]
              refine decides_row at' fun rt text' at'' less same => ?_
              refine Decides.congr (ih at'' (by omega)) ?_
              exact rowsFit_eq same _

theorem decides_routing {text : List Char} (ends : Ends text) (begins : startToken .routeFile <+: text) :
    Decides (NoBlank array) (p.parseRouting (text ++ NUL :: array))
      (p.RowsFit (rows (words (text.drop (startToken .routeFile).length)))) := by
  have long := begins.length_le
  unfold parseRouting
  rw [List.drop_append_of_le_length long, skipBlanks_append, ← TextParts.words_dropWhile]
  refine decides_rows (atWord_dropWhile (ends.suffix (List.drop_suffix _ text))) ?_
  rw [List.length_append]
  exact Nat.lt_succ_of_le (Nat.le_add_right _ _)

end

end RoutingTableParser

end IPv6Suite
