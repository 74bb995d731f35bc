import IPv6Suite.RoutingFileRows

namespace IPv6Suite

open Lib

open Lib.TextParts (words)

namespace RoutingTableParser

/-! ### The entries of an interface file -/

def takesValue : IfconfigToken → Bool
  | .broadcast | .multicast | .pointToPoint => false
  | _ => true

def setsInterface : IfconfigToken → Bool
  | .name | .encap | .hwAddr | .bcast => false
  | _ => true

def tokenAt (text : List Char) : Option IfconfigToken :=
  interfaceTokens.find? fun token => (tokenStr token).isPrefixOf text

def behindToken (token : IfconfigToken) (text : List Char) : List Char :=
  (text.drop (tokenStr token).length).dropWhile isspace

def entryValue (token : IfconfigToken) (text : List Char) : List Char :=
  if takesValue token then (behindToken token text).takeWhile fun c => !isspace c else []

def behindEntry (token : IfconfigToken) (text : List Char) : List Char :=
  if takesValue token then behindWord (behindToken token text) else behindToken token text

/-- The entries of a text with their values, the first `skip` characters left out. A zero byte ends the
text. -/
def entriesFrom : Nat → List Char → List (IfconfigToken × List Char)
  | _, [] => []
  | skip + 1, _ :: text => entriesFrom skip text
  | 0, c :: text =>
      if c = NUL then []
      else match tokenAt (c :: text) with
        | none => entriesFrom 0 text
        | some token => (token, entryValue token (c :: text)) ::
            entriesFrom (text.length - (behindEntry token (c :: text)).length) text

/-- An error that is raised for an entry ends the reading of the file. -/
def entryRaises (p : RoutingTableParser) : IfconfigToken × List Char → Bool
  | (.name, value) => (p.rt.interfaceByName (String.ofList (cString value))).isNone
  | (.inetAddr, value) | (.mask, value) => !IPAddressBytes.isWellFormed (cString value)
  | (.groups, value) => (p.nextTokens (cString value)).any fun group => !IPAddressBytes.isWellFormed group
  | _ => false

def Fits (value : List Char) : Prop := value ≠ [] ∧ value.length < MAX_ENTRY_STRING_SIZE
deriving Decidable

/-- The values of all entries fit, and those that set something of an interface come after its name, up to
the first entry for which an error is raised. -/
def EntriesFit (raises : IfconfigToken × List Char → Bool) : Bool → List (IfconfigToken × List Char) → Prop
  | _, [] => True
  | named, entry :: entries =>
      (takesValue entry.1 = true → Fits entry.2) ∧ (setsInterface entry.1 = true → named = true) ∧
        (raises entry = true ∨ EntriesFit raises (named || decide (entry.1 = .name)) entries)

instance decidableEntriesFit (raises : IfconfigToken × List Char → Bool) :
    ∀ named entries, Decidable (EntriesFit raises named entries)
  | _, [] => inferInstanceAs (Decidable True)
  | named, entry :: entries =>
      have := decidableEntriesFit raises (named || decide (entry.1 = .name)) entries
      inferInstanceAs (Decidable ((takesValue entry.1 = true → Fits entry.2) ∧
        (setsInterface entry.1 = true → named = true) ∧
          (raises entry = true ∨ EntriesFit raises (named || decide (entry.1 = .name)) entries)))

theorem entriesFrom_drop (skip : Nat) (text : List Char) : entriesFrom skip text = entriesFrom 0 (text.drop skip) := by
  induction skip generalizing text with
  | zero => rfl
  | succ skip ih =>
      cases text with
      | nil => rfl
      | cons c text => exact ih text

theorem tokenStr_plain (token : IfconfigToken) : tokenStr token ≠ [] ∧ NUL ∉ tokenStr token := by
  cases token <;> decide

theorem behindEntry_suffix (token : IfconfigToken) (text : List Char) :
    behindEntry token text <:+ text.drop (tokenStr token).length := by
  have behind : behindToken token text <:+ text.drop (tokenStr token).length := List.dropWhile_suffix _
  unfold behindEntry behindWord
  split
  · exact ((List.dropWhile_suffix _).trans (List.dropWhile_suffix _)).trans behind
  · exact behind

theorem entriesFrom_token {c : Char} {text : List Char} {token : IfconfigToken} (inside : c ≠ NUL)
    (found : tokenAt (c :: text) = some token) : entriesFrom 0 (c :: text) =
      (token, entryValue token (c :: text)) :: entriesFrom 0 (behindEntry token (c :: text)) := by
  have suffix : behindEntry token (c :: text) <:+ text := by
    refine (behindEntry_suffix token (c :: text)).trans ?_
    obtain ⟨size, length⟩ := Nat.exists_eq_add_one.mpr (List.length_pos_iff.mpr (tokenStr_plain token).1)
    rw [length, List.drop_succ_cons]
    exact List.drop_suffix size text
  conv_lhs => unfold entriesFrom
  rw [if_neg inside, found]
  dsimp only
  rw [entriesFrom_drop, ← List.suffix_iff_eq_drop.mp suffix]

theorem findToken_append (tokens : List IfconfigToken) (text array : List Char) :
    findToken tokens (text ++ NUL :: array) = .ok (tokens.find? fun token => (tokenStr token).isPrefixOf text) := by
  induction tokens with
  | nil => rfl
  | cons token tokens ih =>
      unfold findToken
      rw [streq_append (tokenStr_plain token).2, List.find?_cons]
      cases (tokenStr token).isPrefixOf text with
      | true => rfl
      | false => exact ih

section

variable {array : List Char} {α : Type} {bad cond : Prop} {text : List Char} {token : IfconfigToken}
  {p : RoutingTableParser} {ie : Option String}

theorem skipBlanks_token (begins : tokenStr token <+: text) :
    skipBlanks ((text ++ NUL :: array).drop (tokenStr token).length) =
      .ok (behindToken token text ++ NUL :: array) := by
  rw [List.drop_append_of_le_length begins.length_le]
  exact skipBlanks_append _

theorem fits_iff (at' : AtWord (behindToken token text)) (takes : takesValue token = true) :
    Fits (entryValue token text) ↔ behindToken token text ≠ [] ∧
      ((behindToken token text).takeWhile fun c => !isspace c).length < MAX_ENTRY_STRING_SIZE := by
  unfold Fits entryValue
  rw [if_pos takes]
  refine and_congr_left fun _ => not_congr ⟨fun none => ?_, fun none => ?_⟩
  · cases behind : behindToken token text with
    | nil => rfl
    | cons c rest =>
        rw [behind] at none at'
        have first := at'.first c rfl
        rw [List.takeWhile_cons_of_pos (by simpa using first)] at none
        cases none
  · rw [none]
    rfl

theorem decides_entry (worse : bad → NoBlank array) (ends : Ends text) (begins : tokenStr token <+: text) (takes : takesValue token = true)
    {next : List Char × List Char → ParserExec α} (rest : Decides bad
      (next (cString (entryValue token text), behindEntry token text ++ NUL :: array)) cond) :
    Decides bad (parseEntry (text ++ NUL :: array) (tokenStr token) >>= next)
      (Fits (entryValue token text) ∧ cond) := by
  have at' : AtWord (behindToken token text) := atWord_dropWhile (ends.suffix (List.drop_suffix _ text))
  have columns : parseEntry (text ++ NUL :: array) (tokenStr token) =
      parseColumn (behindToken token text ++ NUL :: array) := by
    unfold parseEntry
    rw [skipBlanks_token begins]
    rfl
  rw [columns, parseColumn_bind, fits_iff at' takes, and_assoc]
  refine @decides_word array α bad worse (behindToken token text) at' MAX_ENTRY_STRING_SIZE
    (fun r => next (cString r.1, r.2)) cond fun _ _ => ?_
  unfold entryValue behindEntry behindWord at rest
  rw [if_pos takes, if_pos takes] at rest
  exact rest

theorem address_isOk (text : List Char) :
    (address text).isOk = false ↔ (!IPAddressBytes.isWellFormed text) = true := by
  unfold address IPAddressBytes.isWellFormed
  cases IPAddressBytes.parseIPAddress text with
  | none => exact iff_of_true rfl rfl
  | some a => exact iff_of_false Bool.true_eq_false.mp Bool.false_ne_true

theorem mapM_address_contained (groups : List (List Char)) : Contained (groups.mapM address) ∧
    ((groups.mapM address).isOk = false ↔ (groups.any fun group => !IPAddressBytes.isWellFormed group) = true) := by
  induction groups with
  | nil => exact ⟨True.intro, by simp [Except.isOk, Except.toBool, pure, Except.pure]⟩
  | cons group groups ih =>
      rw [List.mapM_cons, List.any_cons, Bool.or_eq_true, ← address_isOk, ← ih.2]
      cases first : address group with
      | error fault => exact ⟨(address_contained group).of_error first, iff_of_true rfl (Or.inl rfl)⟩
      | ok a =>
          cases rest : groups.mapM address with
          | error fault => exact ⟨ih.1.of_error rest, iff_of_true rfl (Or.inr rfl)⟩
          | ok mcg =>
              exact ⟨True.intro, iff_of_false Bool.true_eq_false.mp fun wrong =>
                wrong.elim Bool.true_eq_false.mp Bool.true_eq_false.mp⟩

theorem decides_setFromValue (worse : bad → NoBlank array) (ends : Ends text) (begins : tokenStr token <+: text)
    (takes : takesValue token = true) {change : List Char → ParserExec (InterfaceSettings → InterfaceSettings)}
    (reports : ∀ value, Contained (change value)) {next : RoutingTableParser × Option String × List Char → ParserExec α}
    (rest : ∀ name settings, ie = some name → Decides bad
      (next ({ p with settings }, ie, behindEntry token text ++ NUL :: array)) cond) :
    Decides bad (p.setFromValue ie token (text ++ NUL :: array) change >>= next)
      (Fits (entryValue token text) ∧ ie.isSome = true ∧
        ((change (cString (entryValue token text))).isOk = false ∨ cond)) := by
  unfold setFromValue
  rw [bind_assoc]
  refine decides_entry worse ends begins takes ?_
  cases ie with
  | none => exact ⟨fun set => (Bool.false_ne_true set.1).elim, fun _ follows => (follows : False).elim⟩
  | some name =>
      change Decides _ ((change _ >>= fun change => _) >>= next) _
      rw [bind_assoc]
      refine Decides.congr (Decides.check (reports _) fun set changed => ?_) (and_iff_right rfl).symm
      exact rest name _ rfl

theorem decides_setFlag (begins : tokenStr token <+: text)
    (flag : takesValue token = false) {change : InterfaceSettings → InterfaceSettings}
    {next : RoutingTableParser × Option String × List Char → ParserExec α}
    (rest : ∀ name settings, ie = some name → Decides bad
      (next ({ p with settings }, ie, behindEntry token text ++ NUL :: array)) cond) :
    Decides bad (p.setFlag ie token (text ++ NUL :: array) change >>= next) (ie.isSome = true ∧ cond) := by
  unfold setFlag
  cases ie with
  | none => exact ⟨fun set => (Bool.false_ne_true set.1).elim, fun _ follows => (follows : False).elim⟩
  | some name =>
      have behind : behindEntry token text = behindToken token text := if_neg (by simp [flag])
      have after := rest name (Function.update p.settings name (change (p.settings name))) rfl
      rw [behind] at after
      change Decides _ ((skipBlanks _ >>= fun file => _) >>= next) _
      rw [skipBlanks_token begins]
      exact after.congr (and_iff_right rfl).symm

theorem isOk_bind_pure {β γ : Type} {r : ParserExec β} {f : β → γ} :
    (r >>= fun value => pure (f value)).isOk = r.isOk := by
  cases r <;> rfl

theorem contained_bind_pure {β γ : Type} {r : ParserExec β} {f : β → γ} (contained : Contained r) :
    Contained (r >>= fun value => pure (f value)) := Ensures.bind contained fun _ _ => True.intro

theorem decides_name (worse : bad → NoBlank array) (ends : Ends text) (begins : tokenStr .name <+: text)
    {next : RoutingTableParser × Option String × List Char → ParserExec α} (rest : ∀ name, Decides bad
      (next (p, some name, behindEntry .name text ++ NUL :: array)) cond) :
    Decides bad (p.parseToken ie (text ++ NUL :: array) .name >>= next)
      (Fits (entryValue .name text) ∧ (p.entryRaises (.name, entryValue .name text) = true ∨ cond)) := by
  change Decides _ ((parseEntry _ _ >>= fun r => _) >>= next) _
  rw [bind_assoc]
  refine decides_entry worse ends begins rfl ?_
  unfold entryRaises
  dsimp only
  cases p.rt.interfaceByName (String.ofList (cString (entryValue .name text))) with
  | none =>
      refine (Decides.reported ?_).congr (iff_of_true True.intro (Or.inl rfl))
      exact (True.intro : Reported (.oppError _ _))
  | some interface => exact (rest interface.name).congr (or_iff_right Bool.false_ne_true).symm

theorem decides_token (worse : bad → NoBlank array) (ends : Ends text) (begins : tokenStr token <+: text)
    {next : RoutingTableParser × Option String × List Char → ParserExec α}
    (rest : ∀ settings ie', ie'.isSome = (ie.isSome || decide (token = .name)) → Decides bad
      (next ({ p with settings }, ie', behindEntry token text ++ NUL :: array)) cond) :
    Decides bad (p.parseToken ie (text ++ NUL :: array) token >>= next)
      ((takesValue token = true → Fits (entryValue token text)) ∧ (setsInterface token = true → ie.isSome = true) ∧
          (p.entryRaises (token, entryValue token text) = true ∨ cond)) := by
  have kept (settings : String → InterfaceSettings) (other : token ≠ .name) : Decides bad
      (next ({ p with settings }, ie, behindEntry token text ++ NUL :: array)) cond :=
    rest settings ie (by rw [decide_eq_false other, Bool.or_false])
  cases token with
  | name =>
      refine Decides.congr (decides_name worse ends begins fun name => rest p.settings (some name) (by simp)) ?_
      simp [takesValue, setsInterface]
  | encap | hwAddr | bcast =>
      unfold parseToken
      dsimp only
      rw [bind_assoc]
      refine Decides.congr (decides_entry worse ends begins rfl (kept p.settings (by decide))) ?_
      simp [takesValue, setsInterface, entryRaises]
  | inetAddr | mask =>
      unfold parseToken
      refine Decides.congr (decides_setFromValue worse ends begins rfl (fun value =>
        contained_bind_pure (address_contained value)) fun _ settings _ => kept settings (by decide)) ?_
      rw [isOk_bind_pure, address_isOk]
      simp [takesValue, setsInterface, entryRaises]
  | groups =>
      unfold parseToken
      refine Decides.congr (decides_setFromValue worse ends begins rfl (fun value => contained_bind_pure
        (contained_bind_pure (mapM_address_contained _).1)) fun _ settings _ => kept settings (by decide)) ?_
      rw [isOk_bind_pure, isOk_bind_pure, (mapM_address_contained _).2]
      simp [takesValue, setsInterface, entryRaises]
  | mtu | metric =>
      unfold parseToken
      refine Decides.congr (decides_setFromValue worse ends begins rfl (fun value => Ensures.ok True.intro)
        fun _ settings _ => kept settings (by decide)) ?_
      simp [takesValue, setsInterface, entryRaises, Except.isOk, Except.toBool]
  | broadcast | multicast | pointToPoint =>
      unfold parseToken
      refine Decides.congr (decides_setFlag begins rfl fun _ settings _ => kept settings (by decide)) ?_
      simp [takesValue, setsInterface, entryRaises]

theorem parseInterfacesFrom_round {c : Char} (inside : c ≠ NUL) (fuel : Nat) :
    parseInterfacesFrom (fuel + 1) p ie (c :: text ++ NUL :: array) =
      (tokenAt (c :: text)).elim (parseInterfacesFrom fuel p ie (text ++ NUL :: array)) fun token =>
        p.parseToken ie (c :: text ++ NUL :: array) token >>= fun r =>
          parseInterfacesFrom fuel r.1 r.2.1 r.2.2 := by
  have finds := findToken_append interfaceTokens (c :: text) array
  rw [List.cons_append] at finds ⊢
  conv_lhs => unfold parseInterfacesFrom
  rw [if_neg inside, finds]
  unfold tokenAt
  cases interfaceTokens.find? fun token => (tokenStr token).isPrefixOf (c :: text) with
  | none => rfl
  | some token => rfl

theorem tokenAt_eq_some (found : tokenAt text = some token) : tokenStr token <+: text := by
  have holds := List.find?_some (p := fun token => (tokenStr token).isPrefixOf text) found
  exact List.isPrefixOf_iff_prefix.mp holds

/-- The interface file is read inside the arrays exactly if its entries fit; what is done next is done
unless an error was raised. -/
theorem decides_interfacesFrom (worse : bad → NoBlank array) (ends : Ends text) {fuel : Nat}
    (enough : text.length < fuel) {next : RoutingTableParser → ParserExec α}
    (rest : ∀ settings, Decides bad (next { p with settings }) cond) :
    Decides bad (parseInterfacesFrom fuel p ie (text ++ NUL :: array) >>= next)
      (EntriesFit p.entryRaises ie.isSome (entriesFrom 0 text) ∧
        ((entriesFrom 0 text).any p.entryRaises = true ∨ cond)) := by
  induction fuel generalizing p ie text with
  | zero => cases enough
  | succ fuel ih =>
      cases text with
      | nil => exact (rest p.settings).congr (by simp [entriesFrom, EntriesFit])
      | cons c text =>
          by_cases ended : c = NUL
          · have stops : entriesFrom 0 (c :: text) = [] := by
              unfold entriesFrom
              rw [if_pos ended]
            rw [List.cons_append, stops]
            unfold parseInterfacesFrom
            rw [if_pos ended]
            exact (rest p.settings).congr (by simp [EntriesFit])
          · rw [parseInterfacesFrom_round ended]
            cases found : tokenAt (c :: text) with
            | none =>
                have skips : entriesFrom 0 (c :: text) = entriesFrom 0 text := by
                  conv_lhs => unfold entriesFrom
                  rw [if_neg ended, found]
                rw [skips]
                exact ih (ends.suffix (List.suffix_cons c text)) (Nat.lt_of_succ_lt_succ enough) rest
            | some token =>
                have suffix := behindEntry_suffix token (c :: text)
                have shorter := suffix.length_le
                have positive := List.length_pos_iff.mpr (tokenStr_plain token).1
                rw [List.length_drop] at shorter
                rw [List.length_cons] at shorter enough
                rw [entriesFrom_token ended found, Option.elim_some, bind_assoc]
                refine Decides.congr (@decides_token array α bad
                  (EntriesFit p.entryRaises (ie.isSome || decide (token = .name))
                    (entriesFrom 0 (behindEntry token (c :: text))) ∧
                      ((entriesFrom 0 (behindEntry token (c :: text))).any p.entryRaises = true ∨ cond))
                  (c :: text) token p ie worse ends (tokenAt_eq_some found)
                  (fun r => parseInterfacesFrom fuel r.1 r.2.1 r.2.2 >>= next)
                  fun settings ie' known => ?_) ?_
                · rw [← known]
                  exact @ih _ { p with settings } ie' (ends.suffix (suffix.trans (List.drop_suffix _ _)))
                    (by omega) rest
                · rw [List.any_cons, Bool.or_eq_true, or_assoc]
                  conv_rhs => unfold EntriesFit
                  rw [and_assoc, and_assoc, or_and_left]

theorem decides_interfaces (worse : bad → NoBlank array) (ends : Ends text) {next : RoutingTableParser → ParserExec α}
    (rest : ∀ settings, Decides bad (next { p with settings }) cond) :
    Decides bad (p.parseInterfaces (text ++ NUL :: array) >>= next)
      (EntriesFit p.entryRaises false (entriesFrom 0 text) ∧
        ((entriesFrom 0 text).any p.entryRaises = true ∨ cond)) := by
  refine decides_interfacesFrom worse ends ?_ rest
  rw [List.length_append]
  exact Nat.lt_succ_of_le (Nat.le_add_right _ _)

end

end RoutingTableParser

end IPv6Suite
