import IPv6Suite.IPv6LocalDeliver
import IPv6Suite.Lib.Logged
import IPv6Suite.RouteCopies

namespace IPv6Suite

open Lib

/-- What local delivery does with a datagram: it looks at a header of the chain or at one of the routing headers
in it, asks the datagram for the next header, and sends. A routing header whose processing has sent the datagram
on releases it, and deletes it otherwise. -/
inductive DeliverEvent where
  | header (j : Nat)
  | rhead (j i : Nat)
  | getNextHeader
  | send (output : DeliverOutput)
  | released
  | deleted
deriving DecidableEq

namespace DeliverEvent

def touches : DeliverEvent → Bool
  | header _ | rhead _ _ | getNextHeader => true
  | send _ | released | deleted => false

/-- A routing header is done with the datagram. -/
def consumes : DeliverEvent → Bool
  | released | deleted => true
  | header _ | rhead _ _ | getNextHeader | send _ => false

def isCopy : DeliverEvent → Bool
  | send (.route output) => output.isCopy
  | _ => false

end DeliverEvent

namespace IPv6Datagram

/-- `HdrExtRteProc::processHeader` -/
def rheadsLog (j : Nat) : (count i cumulLengthInUnits : Nat) → IPv6Datagram →
    Logged DeliverEvent (Bool × IPv6Datagram)
  | 0, _, _, d => return (true, d)
  | count + 1, i, cumulLengthInUnits, d => do
      Logged.record [.rhead j i]
      let rh ← Logged.lift (Exec.deref .nullDeref (d.rhead j i))
      let cumulLengthInUnits := cumulLengthInUnits + rh.lengthInUnits
      if rh.segmentsLeft ≠ 0 then do
        Logged.lift (Exec.assert (rh.isMIPv6RteOpt = true → rh.segmentsLeft = 1))
        let (success, d, sent) ← Logged.lift (d.processRte j i cumulLengthInUnits)
        Logged.record (sent.map fun output => .send (.route output))
        Logged.record [if success then .released else .deleted]
        if success then rheadsLog j count (i + 1) cumulLengthInUnits d else return (false, d)
      else rheadsLog j count (i + 1) cumulLengthInUnits d

/-- The body of the loop of `processDatagram` -/
def headerLog (bc : BindingCache) (j : Nat) (localdeliver : Bool) (d : IPv6Datagram) :
    Logged DeliverEvent (Bool × Bool × IPv6Datagram) := do
  Logged.record [.header j]
  let proc ← Logged.lift (Exec.deref .nullDeref d.extHdrs[j]?)
  match proc.type with
  | .dest => do
      let (success, d, sent) ← Logged.lift (processDestOpts bc j proc.destOpts.length 0 d)
      Logged.record (sent.map .send)
      return (success, localdeliver, d)
  | .routing =>
      if proc.isSegmentsLeft then do
        let (success, d) ← rheadsLog j proc.rheads.length 0 (d.cumulLengthInUnits j) d
        return (success, false, d)
      else return (true, true, d)
  | .fragment => Logged.lift (.error .fatalError)
  | _ => return (true, localdeliver, d)

/-- The loop asks for the next header before it looks at `success`. -/
def headersLog (bc : BindingCache) : (count j : Nat) → (localdeliver : Bool) → IPv6Datagram →
    Logged DeliverEvent (Bool × Bool × IPv6Datagram)
  | 0, _, localdeliver, d => return (true, localdeliver, d)
  | count + 1, j, localdeliver, d => do
      let (success, localdeliver, d) ← headerLog bc j localdeliver d
      Logged.record [.getNextHeader]
      if success then headersLog bc count (j + 1) localdeliver d else return (false, localdeliver, d)

def datagramLog (d : IPv6Datagram) (bc : BindingCache) : Logged DeliverEvent (Bool × IPv6Datagram) := do
  Logged.record [.getNextHeader]
  let (success, localdeliver, d) ← headersLog bc d.extHdrs.length 0 true d
  return (success && localdeliver, d)

/-! ### The log is one of the delivery -/

def outputs (es : List DeliverEvent) : List DeliverOutput :=
  es.filterMap fun
    | .send output => some output
    | _ => none

/-- A log with the result and the messages of a computation -/
def LogOf {α : Type} (log : Logged DeliverEvent α) (x : Exec (α × List DeliverOutput)) : Prop :=
  log.result = x.map (·.1) ∧ ∀ r, x = .ok r → outputs log.events = r.2

variable {d d' : IPv6Datagram} {bc : BindingCache} {j i count cumul : Nat} {l : Bool} {rh : HdrExtRte}
  {proc : HdrExtProc}

theorem outputs_append (es fs : List DeliverEvent) : outputs (es ++ fs) = outputs es ++ outputs fs :=
  List.filterMap_append

theorem outputs_sends (sent : List DeliverOutput) : outputs (sent.map .send) = sent := by
  induction sent with
  | nil => rfl
  | cons output rest ih =>
      rw [List.map_cons, ← List.singleton_append, outputs_append, ih]
      rfl

theorem outputs_routes (sent : List RouteOutput) :
    outputs (sent.map fun output => .send (.route output)) = sent.map .route := by
  rw [← outputs_sends (sent.map .route), List.map_map]
  rfl

theorem LogOf.prepend {α : Type} {log : Logged DeliverEvent α} {x : Exec (α × List DeliverOutput)}
    (logOf : LogOf log x) (es : List DeliverEvent) :
    LogOf (.prepend es log) (x.map fun r => (r.1, outputs es ++ r.2)) := by
  obtain ⟨result, sent⟩ := logOf
  cases x with
  | error fault => exact ⟨result, nofun⟩
  | ok r =>
      refine ⟨result, ?_⟩
      intro r' same
      cases same
      rw [Logged.prepend_events, outputs_append, sent r rfl]

theorem LogOf.of_error {α : Type} (es : List DeliverEvent) (fault : Fault) :
    LogOf (⟨es, .error fault⟩ : Logged DeliverEvent α) (.error fault) := ⟨rfl, nofun⟩

theorem LogOf.of_ok {α : Type} (a : α) : LogOf (pure a : Logged DeliverEvent α) (.ok (a, [])) := by
  refine ⟨rfl, ?_⟩
  intro r same
  cases same
  rfl

theorem rheadsLog_logOf (j count i cumul : Nat) (d : IPv6Datagram) : LogOf (rheadsLog j count i cumul d)
    ((processRheads j count i cumul d).map fun r => ((r.1, r.2.1), r.2.2.map .route)) := by
  induction count generalizing i cumul d with
  | zero => exact .of_ok _
  | succ count ih =>
      unfold rheadsLog processRheads
      cases d.rhead j i with
      | none => exact .of_error _ _
      | some rh =>
          simp only [deref_some, ok_bind, Logged.record_bind, Logged.lift_ok_bind]
          by_cases left : rh.segmentsLeft ≠ 0
          · rw [if_pos left, if_pos left]
            cases Exec.assert (rh.isMIPv6RteOpt = true → rh.segmentsLeft = 1) with
            | error fault => exact .of_error _ _
            | ok _ =>
                rw [ok_bind, Logged.lift_ok_bind]
                cases d.processRte j i (cumul + rh.lengthInUnits) with
                | error fault => exact .of_error _ _
                | ok r =>
                    obtain ⟨success, d', sent⟩ := r
                    rw [ok_bind, Logged.lift_ok_bind]
                    dsimp only
                    cases success with
                    | true =>
                        have onward := (ih (i + 1) (cumul + rh.lengthInUnits) d').prepend
                          ([.rhead j i] ++ (sent.map fun output => .send (.route output)) ++ [.released])
                        rw [outputs_append, outputs_append, outputs_routes] at onward
                        rw [if_pos rfl, if_pos rfl, if_pos rfl, Logged.prepend_prepend, Logged.prepend_prepend]
                        convert onward using 1
                        cases processRheads j count (i + 1) (cumul + rh.lengthInUnits) d' with
                        | error fault => rfl
                        | ok r =>
                            change Except.ok _ = Except.ok _
                            simp [outputs]
                    | false =>
                        have stops := (LogOf.of_ok (false, d')).prepend
                          ([.rhead j i] ++ (sent.map fun output => .send (.route output)) ++ [.deleted])
                        rw [outputs_append, outputs_append, outputs_routes] at stops
                        rw [if_neg Bool.false_ne_true, if_neg Bool.false_ne_true, if_neg Bool.false_ne_true,
                          Logged.prepend_prepend, Logged.prepend_prepend]
                        convert stops using 1
                        change Except.ok _ = Except.ok _
                        simp [outputs]
          · rw [if_neg left, if_neg left]
            have onward := (ih (i + 1) (cumul + rh.lengthInUnits) d).prepend [.rhead j i]
            convert onward using 1
            cases processRheads j count (i + 1) (cumul + rh.lengthInUnits) d <;> rfl

theorem LogOf.stops {es : List DeliverEvent} {sent : List DeliverOutput} (sends : outputs es = sent) :
    LogOf (.prepend es (pure (false, l, d)))
      ((Except.ok (false, l, d, sent)).map fun r => ((r.1, r.2.1, r.2.2.1), r.2.2.2)) := by
  convert (LogOf.of_ok (false, l, d)).prepend es using 1
  change Except.ok _ = Except.ok _
  simp [sends]

theorem LogOf.goesOn (es : List DeliverEvent) {sent : List DeliverOutput} (sends : outputs es = sent)
    {log : Logged DeliverEvent (Bool × Bool × IPv6Datagram)}
    {x : Exec (Bool × Bool × IPv6Datagram × List DeliverOutput)}
    (later : LogOf log (x.map fun r => ((r.1, r.2.1, r.2.2.1), r.2.2.2))) :
    LogOf (.prepend es log) ((x >>= fun r => Except.ok (r.1, r.2.1, r.2.2.1, sent ++ r.2.2.2)).map
      fun r => ((r.1, r.2.1, r.2.2.1), r.2.2.2)) := by
  convert later.prepend es using 1
  rw [sends]
  cases x <;> rfl

theorem headersLog_logOf (bc : BindingCache) (count j : Nat) (l : Bool) (d : IPv6Datagram) :
    LogOf (headersLog bc count j l d)
      ((processHeaders bc count j l d).map fun r => ((r.1, r.2.1, r.2.2.1), r.2.2.2)) := by
  induction count generalizing j l d with
  | zero => exact .of_ok _
  | succ count ih =>
      have silent (l : Bool) : LogOf (.prepend ([.header j] ++ [.getNextHeader]) (headersLog bc count (j + 1) l d))
          ((processHeaders bc count (j + 1) l d).map fun r => ((r.1, r.2.1, r.2.2.1), r.2.2.2)) := by
        convert LogOf.goesOn ([.header j] ++ [.getNextHeader]) rfl (ih (j + 1) l d) using 2
        cases processHeaders bc count (j + 1) l d <;> rfl
      unfold headersLog processHeaders headerLog
      cases d.extHdrs[j]? with
      | none => exact .of_error _ _
      | some proc =>
          simp only [deref_some, ok_bind, Logged.record_bind, Logged.lift_ok_bind, Logged.prepend_bind]
          cases proc.type with
          | dest =>
              dsimp only
              cases processDestOpts bc j proc.destOpts.length 0 d with
              | error fault => exact .of_error _ _
              | ok r =>
                  obtain ⟨success, d', sent⟩ := r
                  simp only [ok_bind, Logged.lift_ok_bind, Logged.prepend_bind, Logged.pure_bind,
                    Logged.prepend_prepend]
                  have sends : outputs ([.header j] ++ (sent.map .send ++ [.getNextHeader])) = sent := by
                    rw [outputs_append, outputs_append, outputs_sends]
                    exact List.append_nil sent
                  cases success with
                  | true => exact .goesOn _ sends (ih (j + 1) l d')
                  | false => exact .stops sends
          | routing =>
              dsimp only
              by_cases left : proc.isSegmentsLeft = true
              · rw [if_pos left, if_pos left]
                have processes := rheadsLog_logOf j proc.rheads.length 0 (d.cumulLengthInUnits j) d
                cases ran : processRheads j proc.rheads.length 0 (d.cumulLengthInUnits j) d with
                | error fault =>
                    rw [ran] at processes
                    rw [Logged.bind_of_error processes.1]
                    exact .of_error _ _
                | ok r =>
                    obtain ⟨success, d', sent⟩ := r
                    rw [ran] at processes
                    rw [Logged.bind_of_ok processes.1, Logged.prepend_bind, Logged.prepend_prepend]
                    simp only [ok_bind, Logged.pure_bind, Logged.prepend_prepend]
                    have sends : outputs ([.header j] ++ (rheadsLog j proc.rheads.length 0 (d.cumulLengthInUnits j) d).events ++
                        [.getNextHeader]) = sent.map .route := by
                      rw [outputs_append, outputs_append, processes.2 _ rfl]
                      exact List.append_nil _
                    cases success with
                    | true => exact .goesOn _ sends (ih (j + 1) false d')
                    | false => exact .stops sends
              · rw [if_neg left, if_neg left]
                exact silent true
          | fragment => exact .of_error _ _
          | hop => exact silent l
          | esp => exact silent l
          | auth => exact silent l
          | uninitialised => exact silent l

/-- What is logged is the delivery, with the same result and the same messages. -/
theorem datagramLog_logOf (d : IPv6Datagram) (bc : BindingCache) :
    LogOf (d.datagramLog bc) ((d.processDatagram bc).map fun r => ((r.1, r.2.1), r.2.2)) := by
  have delivers := headersLog_logOf bc d.extHdrs.length 0 true d
  unfold datagramLog processDatagram
  cases ran : processHeaders bc d.extHdrs.length 0 true d with
  | error fault =>
      rw [ran] at delivers
      rw [Logged.bind_of_error delivers.1]
      exact .of_error _ _
  | ok r =>
      rw [ran] at delivers
      rw [Logged.bind_of_ok delivers.1]
      have ends := (LogOf.of_ok (r.1 && r.2.1, r.2.2.1)).prepend
        ([.getNextHeader] ++ (headersLog bc d.extHdrs.length 0 true d).events)
      rw [outputs_append, delivers.2 _ rfl] at ends
      convert ends using 1
      · rfl
      · change Except.ok _ = Except.ok _
        simp [outputs]

/-! ### The headers before the routing header -/

def sourceAfter (msg : EncapsulatedMsg) (src home : Ipv6Addr) : Ipv6Addr :=
  match msg with
  | .mobility _ _ => src
  | _ => home

/-- Each home address is bound to the source that the datagram has by then. Binding Updates need no binding. -/
def Bound (bc : BindingCache) (msg : EncapsulatedMsg) : Ipv6Addr → List Ipv6Addr → Prop
  | _, [] => True
  | src, home :: rest =>
      ((∃ message, msg = .mobility true message) ∨ (bc.findBinding home).any (·.careOfAddr = src) = true) ∧
        Bound bc msg (sourceAfter msg src home) rest

/-- What the headers up to one of them leave as it is -/
structure Same (i : Nat) (d d' : IPv6Datagram) : Prop where
  later : d'.extHdrs.drop i = d.extHdrs.drop i
  dest : d'.destAddress = d.destAddress
  message : d'.encapsulatedMsg = d.encapsulatedMsg

/-- The options do not let the datagram pass, and send nothing on. -/
def Refuses (x : Exec (Bool × IPv6Datagram × List DeliverOutput)) : Prop :=
  (∃ fault, x = .error fault) ∨ ∃ d' sent, x = .ok (false, d', sent) ∧ ∀ output, .route output ∉ sent

variable {msg : EncapsulatedMsg} {src home : Ipv6Addr} {k : Nat}

theorem bound_append (opts rest : List Ipv6Addr) : Bound bc msg src (opts ++ rest) ↔
    Bound bc msg src opts ∧ Bound bc msg (opts.foldl (sourceAfter msg) src) rest := by
  induction opts generalizing src with
  | nil => exact (and_iff_right trivial).symm
  | cons home later ih =>
      rw [List.cons_append, Bound, Bound, ih, List.foldl_cons, and_assoc]

theorem processReceivedHoADestOpt_accepts (bound : (∃ message, d.encapsulatedMsg = .mobility true message) ∨
      (bc.findBinding home).any (·.careOfAddr = d.srcAddress) = true) :
    d.processReceivedHoADestOpt bc home = .ok (true, []) := by
  unfold processReceivedHoADestOpt
  split
  · rfl
  · rename_i other
    rcases bound with ⟨message, update⟩ | bound
    · exact absurd update (other message)
    · exact if_pos bound

theorem processReceivedHoADestOpt_refuses (unbound : ¬ ((∃ message, d.encapsulatedMsg = .mobility true message) ∨
      (bc.findBinding home).any (·.careOfAddr = d.srcAddress) = true)) :
    (∃ fault, d.processReceivedHoADestOpt bc home = .error fault) ∨
      ∃ sent, d.processReceivedHoADestOpt bc home = .ok (false, sent) ∧ ∀ output, .route output ∉ sent := by
  unfold processReceivedHoADestOpt
  split
  · rename_i message update
    exact absurd (.inl ⟨message, update⟩) unbound
  · rw [if_neg fun bound => unbound (.inr bound)]
    unfold sendBE
    cases d.findHeader .dest with
    | error fault => exact .inl ⟨fault, rfl⟩
    | ok proc =>
        right
        rw [ok_bind]
        dsimp only
        split
        · exact ⟨_, rfl, nofun⟩
        · exact ⟨_, rfl, fun output inside => nomatch List.mem_singleton.mp inside⟩

theorem Same.refl (i : Nat) (d : IPv6Datagram) : Same i d d := ⟨rfl, rfl, rfl⟩

theorem Same.trans {d'' : IPv6Datagram} (first : Same i d d') (second : Same i d' d'') : Same i d d'' :=
  ⟨second.later.trans first.later, second.dest.trans first.dest, second.message.trans first.message⟩

theorem Same.mono (same : Same i d d') (beyond : i ≤ k) : Same k d d' := by
  refine ⟨?_, same.dest, same.message⟩
  have later := congrArg (List.drop (k - i)) same.later
  rwa [List.drop_drop, List.drop_drop, Nat.add_sub_cancel' beyond] at later

/-- Setting an option and the source leaves the options and the headers behind it. -/
theorem same_setDestOpt (src : Ipv6Addr) (d : IPv6Datagram) (j k : Nat) :
    Same (j + 1) d { d.setDestOpt j k src with srcAddress := home } := by
  refine ⟨?_, rfl, rfl⟩
  apply List.ext_getElem?
  intro i
  have other : j ≠ j + 1 + i := by omega
  simp [setDestOpt, other]

theorem destOpts_setDestOpt (src : Ipv6Addr) (d : IPv6Datagram) (j k : Nat) :
    (d.setDestOpt j k src).extHdrs[j]?.map (·.destOpts.drop (k + 1)) =
      d.extHdrs[j]?.map (·.destOpts.drop (k + 1)) := by
  unfold setDestOpt
  dsimp only
  rw [List.getElem?_modify_eq]
  cases d.extHdrs[j]? with
  | none => rfl
  | some proc => exact congrArg some (List.drop_set_of_lt (Nat.lt_succ_self k))

theorem processOption_accepts (located : d.destOpt j k = some home)
    (accepts : d.processReceivedHoADestOpt bc home = .ok (true, [])) :
    ∃ d', d.processOption bc j k = .ok (true, d', []) ∧ Same (j + 1) d d' ∧
      d'.srcAddress = sourceAfter d.encapsulatedMsg d.srcAddress home ∧
      d'.extHdrs[j]?.map (·.destOpts.drop (k + 1)) = d.extHdrs[j]?.map (·.destOpts.drop (k + 1)) := by
  unfold processOption
  rw [located, deref_some, ok_bind, accepts, ok_bind]
  unfold sourceAfter
  cases d.encapsulatedMsg with
  | mobility bu message => exact ⟨d, rfl, .refl _ d, rfl, rfl⟩
  | datagram inner message => exact ⟨_, rfl, same_setDestOpt _ d j k, rfl, destOpts_setDestOpt _ d j k⟩
  | upper protocol message => exact ⟨_, rfl, same_setDestOpt _ d j k, rfl, destOpts_setDestOpt _ d j k⟩

/-- The options from one on are passed exactly if they are bound. By induction on the options -/
theorem processDestOpts_bound {opts : List Ipv6Addr} (rest : d.extHdrs[j]?.map (·.destOpts.drop k) = some opts) :
    (Bound bc d.encapsulatedMsg d.srcAddress opts → ∃ d', processDestOpts bc j opts.length k d = .ok (true, d', []) ∧
      Same (j + 1) d d' ∧ d'.srcAddress = opts.foldl (sourceAfter d.encapsulatedMsg) d.srcAddress) ∧
    (¬ Bound bc d.encapsulatedMsg d.srcAddress opts → Refuses (processDestOpts bc j opts.length k d)) := by
  induction opts generalizing d k with
  | nil => exact ⟨fun _ => ⟨d, rfl, .refl _ d, rfl⟩, fun unbound => absurd trivial unbound⟩
  | cons home opts ih =>
      obtain ⟨proc, held, drops⟩ := Option.map_eq_some_iff.mp rest
      have located : d.destOpt j k = some home := by
        rw [destOpt, held, Option.bind_some, ← List.head?_drop, drops, List.head?_cons]
      have later : d.extHdrs[j]?.map (·.destOpts.drop (k + 1)) = some opts := by
        rw [held, Option.map_some, ← List.drop_drop, drops]
        rfl
      rw [List.length_cons, Bound]
      unfold processDestOpts
      by_cases accepted : (∃ message, d.encapsulatedMsg = .mobility true message) ∨
          (bc.findBinding home).any (·.careOfAddr = d.srcAddress) = true
      · obtain ⟨d₁, passes, same, src, kept⟩ :=
          processOption_accepts located (processReceivedHoADestOpt_accepts accepted)
        obtain ⟨goesOn, refuses⟩ := @ih d₁ (k + 1) (kept.trans later)
        rw [same.message, src] at goesOn refuses
        rw [passes, ok_bind, and_iff_right accepted]
        dsimp only
        rw [if_pos rfl]
        constructor
        · intro bound
          obtain ⟨d', last, same', src'⟩ := goesOn bound
          rw [last]
          exact ⟨d', rfl, same.trans same', src'⟩
        · intro unbound
          rcases refuses unbound with ⟨fault, last⟩ | ⟨d', sent, last, quiet⟩
          · rw [last]
            exact .inl ⟨fault, rfl⟩
          · rw [last]
            exact .inr ⟨d', sent, rfl, quiet⟩
      · refine ⟨fun bound => absurd bound.1 accepted, fun _ => ?_⟩
        unfold processOption
        rw [located, deref_some, ok_bind]
        rcases processReceivedHoADestOpt_refuses accepted with ⟨fault, fails⟩ | ⟨sent, refuses, quiet⟩
        · rw [fails]
          exact .inl ⟨fault, rfl⟩
        · rw [refuses]
          exact .inr ⟨d, sent, rfl, quiet⟩

/-- A header that is not a routing header with segments left -/
def Idle (proc : HdrExtProc) : Prop := proc.type = .routing → proc.isSegmentsLeft = false

/-- The home addresses in a header, if it has destination options -/
def homes (proc : HdrExtProc) : List Ipv6Addr := if proc.type = .dest then proc.destOpts else []

/-- The delivery goes on behind these headers. -/
structure Passes (bc : BindingCache) (msg : EncapsulatedMsg) (src : Ipv6Addr) (front : List HdrExtProc) : Prop where
  whole : ∀ proc ∈ front, proc.type ≠ .fragment
  bound : Bound bc msg src (front.flatMap homes)

structure Early (j : Nat) (e : DeliverEvent) : Prop where
  keeps : e.consumes = false
  silent : e.isCopy = false
  before : ∀ k, e = .header k → k < j

theorem passes_cons {rest : List HdrExtProc} : Passes bc msg src (proc :: rest) ↔
    (proc.type ≠ .fragment ∧ Bound bc msg src (homes proc)) ∧
      Passes bc msg ((homes proc).foldl (sourceAfter msg) src) rest := by
  constructor
  · intro passes
    obtain ⟨here, later⟩ := (bound_append _ _).mp (List.flatMap_cons ▸ passes.bound)
    obtain ⟨whole, others⟩ := List.forall_mem_cons.mp passes.whole
    exact ⟨⟨whole, here⟩, others, later⟩
  · rintro ⟨⟨whole, here⟩, others, later⟩
    refine ⟨List.forall_mem_cons.mpr ⟨whole, others⟩, ?_⟩
    rw [List.flatMap_cons]
    exact (bound_append _ _).mpr ⟨here, later⟩

theorem headerLog_idle (held : d.extHdrs[j]? = some proc) (idle : Idle proc) (l : Bool) :
    (proc.type ≠ .fragment ∧ Bound bc d.encapsulatedMsg d.srcAddress (homes proc) →
      ∃ l' d', headerLog bc j l d = .prepend [.header j] (pure (true, l', d')) ∧ Same (j + 1) d d' ∧
        d'.srcAddress = (homes proc).foldl (sourceAfter d.encapsulatedMsg) d.srcAddress) ∧
    (¬ (proc.type ≠ .fragment ∧ Bound bc d.encapsulatedMsg d.srcAddress (homes proc)) →
      (∃ fault, headerLog bc j l d = ⟨[.header j], .error fault⟩) ∨
        ∃ (d' : IPv6Datagram) (sent : List DeliverOutput),
          headerLog bc j l d = .prepend (.header j :: sent.map .send) (pure (false, l, d')) ∧
            ∀ output, .route output ∉ sent) := by
  unfold headerLog homes
  rw [held, deref_some, Logged.record_bind, Logged.lift_ok_bind]
  unfold Idle at idle
  cases type : proc.type with
  | dest =>
      obtain ⟨bound, unbound⟩ := @processDestOpts_bound d bc j 0 proc.destOpts (by rw [held]; rfl)
      dsimp only
      rw [if_pos rfl]
      constructor
      · rintro ⟨-, binds⟩
        obtain ⟨d', passes, same, src⟩ := bound binds
        rw [passes]
        exact ⟨l, d', rfl, same, src⟩
      · intro refused
        rcases unbound fun binds => refused ⟨nofun, binds⟩ with ⟨fault, fails⟩ | ⟨d', sent, stops, quiet⟩
        · rw [fails]
          exact .inl ⟨fault, rfl⟩
        · rw [stops]
          refine .inr ⟨d', sent, ?_, quiet⟩
          rw [Logged.lift_ok_bind]
          dsimp only
          rw [Logged.record_bind, Logged.prepend_prepend]
          rfl
  | routing =>
      dsimp only
      rw [if_neg (ne_true_of_eq_false (idle type)), if_neg nofun]
      exact ⟨fun _ => ⟨true, d, rfl, .refl _ d, rfl⟩, fun refused => absurd ⟨nofun, trivial⟩ refused⟩
  | fragment => exact ⟨fun passes => absurd rfl passes.1, fun _ => .inl ⟨_, rfl⟩⟩
  | hop => exact ⟨fun _ => ⟨l, d, rfl, .refl _ d, rfl⟩, fun refused => absurd ⟨nofun, trivial⟩ refused⟩
  | esp => exact ⟨fun _ => ⟨l, d, rfl, .refl _ d, rfl⟩, fun refused => absurd ⟨nofun, trivial⟩ refused⟩
  | auth => exact ⟨fun _ => ⟨l, d, rfl, .refl _ d, rfl⟩, fun refused => absurd ⟨nofun, trivial⟩ refused⟩
  | uninitialised => exact ⟨fun _ => ⟨l, d, rfl, .refl _ d, rfl⟩, fun refused => absurd ⟨nofun, trivial⟩ refused⟩

/-! ### The loop up to the routing header -/

section

variable {es : List DeliverEvent} {l' : Bool} {fault : Fault} {front rest : List HdrExtProc}

theorem headersLog_goesOn (returns : headerLog bc j l d = .prepend es (pure (true, l', d'))) (count : Nat) :
    headersLog bc (count + 1) j l d = .prepend (es ++ [.getNextHeader]) (headersLog bc count (j + 1) l' d') := by
  conv_lhs => unfold headersLog
  rw [returns, Logged.prepend_bind, Logged.pure_bind]
  dsimp only
  rw [Logged.record_bind, Logged.prepend_prepend, if_pos rfl]

theorem headersLog_stops (returns : headerLog bc j l d = .prepend es (pure (false, l', d'))) (count : Nat) :
    headersLog bc (count + 1) j l d = .prepend (es ++ [.getNextHeader]) (pure (false, l', d')) := by
  conv_lhs => unfold headersLog
  rw [returns, Logged.prepend_bind, Logged.pure_bind]
  dsimp only
  rw [Logged.record_bind, Logged.prepend_prepend, if_neg Bool.false_ne_true]

theorem headersLog_fails (fails : headerLog bc j l d = ⟨es, .error fault⟩) (count : Nat) :
    headersLog bc (count + 1) j l d = ⟨es, .error fault⟩ := by
  have result : (headerLog bc j l d).result = .error fault := by rw [fails]
  conv_lhs => unfold headersLog
  rw [Logged.bind_of_error result, fails]

theorem early_header (less : i < j) : Early j (.header i) :=
  ⟨rfl, rfl, fun k same => by cases same; exact less⟩

theorem early_getNextHeader : Early j .getNextHeader := ⟨rfl, rfl, nofun⟩

theorem early_send {sent : List DeliverOutput} (quiet : ∀ output, .route output ∉ sent) :
    ∀ e ∈ sent.map DeliverEvent.send, Early j e := by
  intro e inside
  obtain ⟨output, member, rfl⟩ := List.mem_map.mp inside
  cases output with
  | route routed => exact absurd member (quiet routed)
  | be status hoa src dest => exact ⟨rfl, rfl, nofun⟩

theorem Early.mono {e : DeliverEvent} (early : Early i e) (more : i ≤ j) : Early j e :=
  ⟨early.keeps, early.silent, fun k same => Nat.lt_of_lt_of_le (early.before k same) more⟩

theorem headersLog_front (headers : d.extHdrs.drop i = front ++ rest) (idle : ∀ proc ∈ front, Idle proc)
    (l : Bool) (count : Nat) : (Passes bc d.encapsulatedMsg d.srcAddress front → ∃ es l' d',
      headersLog bc (front.length + count) i l d = .prepend es (headersLog bc count (i + front.length) l' d') ∧
        (∀ e ∈ es, Early (i + front.length) e) ∧ Same (i + front.length) d d') ∧
    (¬ Passes bc d.encapsulatedMsg d.srcAddress front →
      (∀ e ∈ (headersLog bc (front.length + count) i l d).events, Early (i + front.length) e) ∧
        ∀ r, (headersLog bc (front.length + count) i l d).result = .ok r → r.1 = false) := by
  induction front generalizing d i l with
  | nil =>
      refine ⟨fun _ => ⟨[], l, d, ?_, nofun, .refl _ d⟩, fun stopped => absurd ⟨nofun, trivial⟩ stopped⟩
      rw [List.length_nil, Nat.zero_add, Nat.add_zero, Logged.prepend_nil]
  | cons proc front ih =>
      have held : d.extHdrs[i]? = some proc := by
        rw [← List.head?_drop, headers]
        rfl
      obtain ⟨idleHere, idleLater⟩ := List.forall_mem_cons.mp idle
      obtain ⟨passes, stops⟩ := @headerLog_idle d bc i proc held idleHere l
      have place : i + (front.length + 1) = i + 1 + front.length := by omega
      rw [List.length_cons, Nat.add_right_comm, passes_cons, place]
      by_cases here : proc.type ≠ .fragment ∧ Bound bc d.encapsulatedMsg d.srcAddress (homes proc)
      · obtain ⟨l₁, d₁, returns, same, src⟩ := passes here
        have later : d₁.extHdrs.drop (i + 1) = front ++ rest := by
          rw [same.later, ← List.drop_drop, headers]
          rfl
        obtain ⟨goesOn, ends⟩ := ih later idleLater l₁
        rw [same.message, src] at goesOn ends
        rw [headersLog_goesOn returns, and_iff_right here]
        have first : ∀ e ∈ [.header i] ++ [DeliverEvent.getNextHeader], Early (i + 1 + front.length) e :=
          List.forall_mem_cons.mpr ⟨early_header (by omega), List.forall_mem_singleton.mpr early_getNextHeader⟩
        constructor
        · intro passed
          obtain ⟨es, l', d', reaches, early, same'⟩ := goesOn passed
          rw [reaches, Logged.prepend_prepend]
          refine ⟨_, l', d', rfl, ?_, (same.mono (by omega)).trans same'⟩
          exact List.forall_mem_append.mpr ⟨first, early⟩
        · intro stopped
          obtain ⟨early, never⟩ := ends stopped
          exact ⟨List.forall_mem_append.mpr ⟨first, early⟩, never⟩
      · refine ⟨fun passed => absurd passed.1 here, fun _ => ?_⟩
        rcases stops here with ⟨fault, fails⟩ | ⟨d', sent, returns, quiet⟩
        · rw [headersLog_fails fails]
          exact ⟨List.forall_mem_singleton.mpr (early_header (by omega)), nofun⟩
        · rw [headersLog_stops returns]
          refine ⟨?_, ?_⟩
          · rw [Logged.prepend_events, Logged.pure_events, List.append_nil]
            have sends : ∀ e ∈ .header i :: sent.map DeliverEvent.send, Early (i + 1 + front.length) e :=
              List.forall_mem_cons.mpr ⟨early_header (by omega), early_send quiet⟩
            exact List.forall_mem_append.mpr ⟨sends, List.forall_mem_singleton.mpr early_getNextHeader⟩
          · intro r same
            cases same
            rfl

end

/-! ### The routing header -/

/-- The first segment that is left can be taken: nothing that is asserted fails, and the address is there. -/
structure Taken (dest : Ipv6Addr) (rh : HdrExtRte) : Prop where
  unicast : dest.isMulticast = false
  single : rh.isMIPv6RteOpt = true → rh.segmentsLeft = 1
  addressed : rh.Live → rh.addr[rh.nAddr - rh.segmentsLeft.toNat]? ≠ none

theorem taken_index (left : rh.segmentsLeft ≠ 0) :
    rh.nAddr - (rh.segmentsLeft - 1).toNat - 1 = rh.nAddr - rh.segmentsLeft.toNat := by
  have apart : rh.segmentsLeft.toNat ≠ 0 := fun none => left (BitVec.eq_of_toNat_eq none)
  have one : (1 : BitVec 8).toNat ≤ rh.segmentsLeft.toNat := Nat.one_le_iff_ne_zero.mpr apart
  have taken : (rh.segmentsLeft - 1).toNat = rh.segmentsLeft.toNat - 1 := BitVec.toNat_sub_of_le one
  omega

theorem processRte_ok_iff (held : d.rhead j i = some rh) (left : rh.segmentsLeft ≠ 0) (cumul : Nat) :
    (∃ r, d.processRte j i cumul = .ok r) ↔
      d.destAddress.isMulticast = false ∧ (rh.Live → rh.addr[rh.nAddr - rh.segmentsLeft.toNat]? ≠ none) := by
  unfold processRte HdrExtRte.Live
  rw [held, deref_some, ok_bind]
  by_cases unicast : d.destAddress.isMulticast = false
  · rw [assert_pos unicast, ok_bind, if_neg left, and_iff_right unicast]
    by_cases odd : rh.hdrExtLen.toNat % 2 ≠ 0
    · rw [if_pos odd]
      exact iff_of_true ⟨_, rfl⟩ fun live => absurd live.2.1 odd
    · rw [if_neg odd]
      by_cases more : rh.nAddr < rh.segmentsLeft.toNat
      · rw [if_pos more]
        exact iff_of_true ⟨_, rfl⟩ fun live => absurd live.2.2 (Nat.not_le.mpr more)
      · rw [if_neg more]
        simp only [taken_index left]
        cases address : rh.addr[rh.nAddr - rh.segmentsLeft.toNat]? with
        | none =>
            have live : rh.segmentsLeft ≠ 0 ∧ rh.hdrExtLen.toNat % 2 = 0 ∧ rh.segmentsLeft.toNat ≤ rh.nAddr :=
              ⟨left, not_not.mp odd, Nat.not_lt.mp more⟩
            exact iff_of_false nofun fun addressed => addressed live rfl
        | some swapAddr =>
            refine iff_of_true ?_ fun _ => nofun
            rw [deref_some, ok_bind]
            split
            · exact ⟨_, rfl⟩
            · split
              · exact ⟨_, rfl⟩
              · exact ⟨_, rfl⟩
  · rw [assert_neg unicast]
    exact iff_of_false nofun fun both => unicast both.1

/-- What follows an event that consumes the datagram must not touch it. -/
def Untouched (es : List DeliverEvent) : Prop :=
  es.Pairwise fun e t => e.consumes = true → t.touches = false

section

variable {es fs : List DeliverEvent} {pre post : List HdrExtRte}

theorem not_untouched {e t : DeliverEvent} (consumed : e ∈ es) (consumes : e.consumes = true) (touched : t ∈ fs)
    (touches : t.touches = true) : ¬ Untouched (es ++ fs) := by
  intro untouched
  have apart := (List.pairwise_append.mp untouched).2.2 e consumed t touched consumes
  rw [touches] at apart
  cases apart

/-- The loop looks at the next routing header, unless there is none. -/
theorem rheadsLog_fails {fault : Fault} (fails : (rheadsLog j count i cumul d).result = .error fault) :
    .rhead j i ∈ (rheadsLog j count i cumul d).events := by
  cases count with
  | zero => cases fails
  | succ count =>
      unfold rheadsLog
      exact List.mem_cons_self

/-- Routing headers without segments left are passed. By induction on them -/
theorem rheadsLog_visited (held : d.extHdrs[j]? = some proc) (rheads : proc.rheads.drop i = pre ++ rh :: post)
    (visited : ∀ r ∈ pre, r.segmentsLeft = 0) (cumul : Nat) :
    ∃ es cumul', rheadsLog j (pre.length + (post.length + 1)) i cumul d =
        .prepend es (rheadsLog j (post.length + 1) (i + pre.length) cumul' d) ∧
      (∀ e ∈ es, Early 0 e) ∧ d.rhead j (i + pre.length) = some rh := by
  induction pre generalizing i cumul with
  | nil =>
      refine ⟨[], cumul, ?_, List.forall_mem_nil _, ?_⟩
      · rw [List.length_nil, Nat.zero_add, Logged.prepend_nil]
        rfl
      · rw [rhead, held, Option.bind_some, List.length_nil, Nat.add_zero, ← List.head?_drop, rheads]
        rfl
  | cons r pre ih =>
      obtain ⟨here, later⟩ := List.forall_mem_cons.mp visited
      have located : d.rhead j i = some r := by
        rw [rhead, held, Option.bind_some, ← List.head?_drop, rheads]
        rfl
      have rest : proc.rheads.drop (i + 1) = pre ++ rh :: post := by
        rw [← List.drop_drop, rheads]
        rfl
      obtain ⟨es, cumul', passes, early, reached⟩ := ih rest later (cumul + r.lengthInUnits)
      have place : i + (pre.length + 1) = i + 1 + pre.length := by omega
      rw [List.length_cons, Nat.add_right_comm, place]
      refine ⟨[.rhead j i] ++ es, cumul', ?_, ?_, reached⟩
      · conv_lhs => unfold rheadsLog
        rw [Logged.record_bind, located, deref_some, Logged.lift_ok_bind]
        dsimp only
        rw [if_neg (not_not.mpr here), passes, Logged.prepend_prepend]
      · exact List.forall_mem_append.mpr ⟨List.forall_mem_singleton.mpr ⟨rfl, rfl, fun _ same => by cases same⟩, early⟩

theorem rheadsLog_taken (held : d.rhead j i = some rh) (left : rh.segmentsLeft ≠ 0) (taken : Taken d.destAddress rh)
    (count cumul : Nat) : (∃ e ∈ (rheadsLog j (count + 1) i cumul d).events, e.consumes = true) ∧
      ∀ fault, (rheadsLog j (count + 1) i cumul d).result = .error fault →
        ¬ Untouched (rheadsLog j (count + 1) i cumul d).events := by
  obtain ⟨⟨success, d', sent⟩, processes⟩ :=
    (processRte_ok_iff held left (cumul + rh.lengthInUnits)).mpr ⟨taken.unicast, taken.addressed⟩
  unfold rheadsLog
  rw [Logged.record_bind, held, deref_some, Logged.lift_ok_bind]
  dsimp only
  rw [if_pos left, assert_pos taken.single, Logged.lift_ok_bind, processes, Logged.lift_ok_bind]
  dsimp only
  rw [Logged.record_bind, Logged.record_bind, Logged.prepend_prepend, Logged.prepend_prepend]
  have consumed : ∃ e ∈ [.rhead j i] ++ (sent.map fun output => .send (.route output)) ++
      [if success = true then DeliverEvent.released else .deleted], e.consumes = true := by
    refine ⟨_, List.mem_append_right _ (List.mem_singleton.mpr rfl), ?_⟩
    cases success <;> rfl
  obtain ⟨e, inside, consumes⟩ := consumed
  refine ⟨⟨e, List.mem_append_left _ inside, consumes⟩, ?_⟩
  intro fault fails
  cases success with
  | true => exact not_untouched inside consumes (rheadsLog_fails fails) rfl
  | false => cases fails

theorem rheadsLog_not_taken (held : d.rhead j i = some rh) (left : rh.segmentsLeft ≠ 0)
    (not : ¬ Taken d.destAddress rh) (count cumul : Nat) :
    ∃ fault, rheadsLog j (count + 1) i cumul d = ⟨[.rhead j i], .error fault⟩ := by
  unfold rheadsLog
  rw [Logged.record_bind, held, deref_some, Logged.lift_ok_bind]
  dsimp only
  rw [if_pos left]
  by_cases single : rh.isMIPv6RteOpt = true → rh.segmentsLeft = 1
  · rw [assert_pos single, Logged.lift_ok_bind]
    cases processes : d.processRte j i (cumul + rh.lengthInUnits) with
    | error fault => exact ⟨fault, rfl⟩
    | ok r =>
        obtain ⟨unicast, addressed⟩ := (processRte_ok_iff held left _).mp ⟨r, processes⟩
        exact absurd ⟨unicast, single, addressed⟩ not
  · rw [assert_neg single]
    exact ⟨_, rfl⟩

/-- The extension header that has the first routing header with segments left, and what stands around it -/
structure FirstLeft (d : IPv6Datagram) (front : List HdrExtProc) (proc : HdrExtProc) (back : List HdrExtProc)
    (pre : List HdrExtRte) (rh : HdrExtRte) (post : List HdrExtRte) : Prop where
  headers : d.extHdrs = front ++ proc :: back
  idle : ∀ before ∈ front, Idle before
  routing : proc.type = .routing
  rheads : proc.rheads = pre ++ rh :: post
  visited : ∀ r ∈ pre, r.segmentsLeft = 0
  left : rh.segmentsLeft ≠ 0

/-- At most one copy is sent, nothing is touched that a routing header is done with, no header behind the header `j`
is processed, and the datagram is not delivered. -/
structure HandledOnce (j : Nat) (log : Logged DeliverEvent (Bool × IPv6Datagram)) : Prop where
  once : log.events.countP (·.isCopy) ≤ 1
  untouched : Untouched log.events
  unprocessed : ∀ k, .header k ∈ log.events → k ≤ j
  undelivered : ∀ d', log.result ≠ .ok (true, d')

variable {front back : List HdrExtProc}

theorem isSegmentsLeft_iff : proc.isSegmentsLeft = true ↔ ∃ r ∈ proc.rheads, r.segmentsLeft ≠ 0 := by
  unfold HdrExtProc.isSegmentsLeft
  simp

theorem exists_firstLeft (routed : ∃ proc ∈ d.extHdrs, proc.type = .routing ∧ proc.isSegmentsLeft = true) :
    ∃ front proc back pre rh post, d.FirstLeft front proc back pre rh post := by
  have found : (d.extHdrs.find? fun proc => proc.type = .routing ∧ proc.isSegmentsLeft = true).isSome = true := by
    rw [List.find?_isSome]
    obtain ⟨proc, inside, both⟩ := routed
    exact ⟨proc, inside, decide_eq_true both⟩
  obtain ⟨proc, first⟩ := Option.isSome_iff_exists.mp found
  obtain ⟨both, front, back, headers, before⟩ := List.find?_eq_some_iff_append.mp first
  obtain ⟨routing, segments⟩ := of_decide_eq_true both
  have found' : (proc.rheads.find? fun r => r.segmentsLeft ≠ 0).isSome = true := by
    rw [List.find?_isSome]
    obtain ⟨r, inside, left⟩ := isSegmentsLeft_iff.mp segments
    exact ⟨r, inside, decide_eq_true left⟩
  obtain ⟨rh, first'⟩ := Option.isSome_iff_exists.mp found'
  obtain ⟨left, pre, post, rheads, before'⟩ := List.find?_eq_some_iff_append.mp first'
  refine ⟨front, proc, back, pre, rh, post, headers, ?_, routing, rheads, ?_, of_decide_eq_true left⟩
  · intro other inside type
    have idle := before other inside
    simp [type] at idle
    exact idle
  · intro r inside
    have none := before' r inside
    simpa using none

theorem FirstLeft.headerLog_eq (first : d.FirstLeft front proc back pre rh post) (held : d'.extHdrs[j]? = some proc)
    (l : Bool) : headerLog bc j l d' = .prepend [.header j]
      (rheadsLog j proc.rheads.length 0 (d'.cumulLengthInUnits j) d' >>= fun r => pure (r.1, false, r.2)) := by
  have segments : proc.isSegmentsLeft = true :=
    isSegmentsLeft_iff.mpr ⟨rh, by rw [first.rheads]; exact List.mem_append_right _ List.mem_cons_self, first.left⟩
  unfold headerLog
  rw [held, deref_some, Logged.record_bind, Logged.lift_ok_bind, first.routing]
  dsimp only
  rw [if_pos segments]

/-- A routing header whose first segment is taken consumes the datagram, and then the loop asks it for the next
header. -/
theorem FirstLeft.not_untouched (first : d.FirstLeft front proc back pre rh post) (held : d'.extHdrs[j]? = some proc)
    (taken : Taken d'.destAddress rh) (l : Bool) (count : Nat) :
    ¬ Untouched (headersLog bc (count + 1) j l d').events := by
  have drops : proc.rheads.drop 0 = pre ++ rh :: post := first.rheads
  obtain ⟨es, cumul', passes, -, located⟩ :=
    rheadsLog_visited held drops first.visited (d'.cumulLengthInUnits j)
  obtain ⟨⟨e, inside, consumes⟩, faulty⟩ := rheadsLog_taken located first.left taken post.length cumul'
  have header : headerLog bc j l d' = _ := first.headerLog_eq held l
  rw [first.rheads, List.length_append, List.length_cons, passes, Logged.prepend_bind, Logged.prepend_prepend] at header
  cases ran : (rheadsLog j (post.length + 1) (0 + pre.length) cumul' d').result with
  | error fault =>
      rw [Logged.bind_of_error ran] at header
      rw [headersLog_fails header]
      intro untouched
      exact faulty fault ran (List.pairwise_append.mp untouched).2.1
  | ok r =>
      obtain ⟨success, last⟩ := r
      rw [Logged.bind_of_ok ran, Logged.prepend_prepend] at header
      have touched (fs : List DeliverEvent) :
          ¬ Untouched ([.header j] ++ es ++ (rheadsLog j (post.length + 1) (0 + pre.length) cumul' d').events ++
            ([.getNextHeader] ++ fs)) :=
        IPv6Datagram.not_untouched (List.mem_append_right _ inside) consumes List.mem_cons_self rfl
      cases success with
      | true =>
          rw [headersLog_goesOn header, Logged.prepend_events, List.append_assoc]
          exact touched _
      | false =>
          rw [headersLog_stops header, Logged.prepend_events, List.append_assoc]
          exact touched _

theorem FirstLeft.ends (first : d.FirstLeft front proc back pre rh post) (held : d'.extHdrs[j]? = some proc)
    (not : ¬ Taken d'.destAddress rh) (l : Bool) (count : Nat) :
    ∃ es fault, headersLog bc (count + 1) j l d' = ⟨es, .error fault⟩ ∧ ∀ e ∈ es, Early (j + 1) e := by
  have drops : proc.rheads.drop 0 = pre ++ rh :: post := first.rheads
  obtain ⟨es, cumul', passes, early, located⟩ :=
    rheadsLog_visited held drops first.visited (d'.cumulLengthInUnits j)
  obtain ⟨fault, fails⟩ := rheadsLog_not_taken located first.left not post.length cumul'
  have header : headerLog bc j l d' = _ := first.headerLog_eq held l
  rw [first.rheads, List.length_append, List.length_cons, passes, fails, Logged.prepend_bind,
    Logged.prepend_prepend] at header
  refine ⟨_, fault, headersLog_fails header count, ?_⟩
  refine List.forall_mem_append.mpr ⟨List.forall_mem_append.mpr ⟨?_, ?_⟩, ?_⟩
  · exact List.forall_mem_singleton.mpr (early_header (Nat.lt_succ_self j))
  · exact fun e inside => (early e inside).mono (Nat.zero_le _)
  · exact List.forall_mem_singleton.mpr ⟨rfl, rfl, nofun⟩

theorem handledOnce_of_early {log : Logged DeliverEvent (Bool × IPv6Datagram)}
    (early : ∀ e ∈ log.events, Early (j + 1) e) (undelivered : ∀ d', log.result ≠ .ok (true, d')) :
    HandledOnce j log := by
  refine ⟨?_, ?_, ?_, undelivered⟩
  · rw [List.countP_eq_zero.mpr fun e inside => ne_true_of_eq_false (early e inside).silent]
    exact Nat.zero_le 1
  · apply List.pairwise_of_forall_mem_list
    intro e inside t _ consumes
    rw [(early e inside).keeps] at consumes
    cases consumes
  · exact fun k inside => Nat.le_of_lt_succ ((early _ inside).before k rfl)

theorem datagramLog_events (d : IPv6Datagram) (bc : BindingCache) : (d.datagramLog bc).events =
    .getNextHeader :: (headersLog bc d.extHdrs.length 0 true d).events :=
  congrArg (DeliverEvent.getNextHeader :: ·)
    (Logged.bind_pure_events fun r : Bool × Bool × IPv6Datagram => (r.1 && r.2.1, r.2.2))

theorem datagramLog_result (d : IPv6Datagram) (bc : BindingCache) : (d.datagramLog bc).result =
    (headersLog bc d.extHdrs.length 0 true d).result.map fun r => (r.1 && r.2.1, r.2.2) :=
  Logged.bind_pure_result fun r : Bool × Bool × IPv6Datagram => (r.1 && r.2.1, r.2.2)

/-- A datagram that has a routing header with segments left is handled once exactly if the delivery does not get to
that header, or cannot take the segment. -/
theorem handledOnce_iff (d : IPv6Datagram) (bc : BindingCache)
    (routed : ∃ proc ∈ d.extHdrs, proc.type = .routing ∧ proc.isSegmentsLeft = true) :
    ∃ front proc back pre rh post, d.FirstLeft front proc back pre rh post ∧
      (HandledOnce front.length (d.datagramLog bc) ↔
        ¬ (Passes bc d.encapsulatedMsg d.srcAddress front ∧ Taken d.destAddress rh)) := by
  obtain ⟨front, proc, back, pre, rh, post, first⟩ := exists_firstLeft routed
  refine ⟨front, proc, back, pre, rh, post, first, ?_⟩
  have drops : d.extHdrs.drop 0 = front ++ proc :: back := first.headers
  obtain ⟨passes, stops⟩ := @headersLog_front d bc 0 front (proc :: back) drops first.idle true (back.length + 1)
  have count : d.extHdrs.length = front.length + (back.length + 1) := by
    rw [first.headers, List.length_append, List.length_cons]
  rw [Nat.zero_add, ← count] at passes stops
  by_cases passed : Passes bc d.encapsulatedMsg d.srcAddress front
  · obtain ⟨es, l', d', reaches, early, same⟩ := passes passed
    have held : d'.extHdrs[front.length]? = some proc := by
      rw [← List.head?_drop, same.later, first.headers, List.drop_left]
      rfl
    rw [and_iff_right passed, ← same.dest]
    by_cases taken : Taken d'.destAddress rh
    · refine iff_of_false ?_ (not_not.mpr taken)
      intro handled
      have untouched := handled.untouched
      rw [datagramLog_events, reaches, Logged.prepend_events, ← List.cons_append] at untouched
      exact first.not_untouched held taken l' back.length (List.pairwise_append.mp untouched).2.1
    · refine iff_of_true ?_ taken
      obtain ⟨es', fault, fails, early'⟩ := first.ends held taken l' back.length
      apply handledOnce_of_early
      · rw [datagramLog_events, reaches, fails, Logged.prepend_events]
        refine List.forall_mem_cons.mpr ⟨early_getNextHeader, List.forall_mem_append.mpr ⟨?_, early'⟩⟩
        exact fun e inside => (early e inside).mono (Nat.le_succ _)
      · rw [datagramLog_result, reaches, fails]
        exact fun _ => nofun
  · refine iff_of_true ?_ fun both => passed both.1
    obtain ⟨early, never⟩ := stops passed
    apply handledOnce_of_early
    · rw [datagramLog_events]
      refine List.forall_mem_cons.mpr ⟨early_getNextHeader, ?_⟩
      exact fun e inside => (early e inside).mono (Nat.le_succ _)
    · intro last delivered
      rw [datagramLog_result] at delivered
      obtain ⟨r, returns, same⟩ := map_eq_ok delivered
      rw [never r returns] at same
      cases same

end

/-- A datagram with these routing headers, and with others in the header behind them -/
def routed (rheads visited : List HdrExtRte) : IPv6Datagram :=
  { create (hopAddr 9) (hopAddr 1) with
    hopLimit := 64
    extHdrs := [⟨.routing, 43, rheads, []⟩, ⟨.routing, 59, visited, []⟩] }

theorem handledOnce_iff_routed : ∃ front proc back pre rh post,
    (routed [oneSegment] []).FirstLeft front proc back pre rh post ∧
      (HandledOnce front.length ((routed [oneSegment] []).datagramLog ∅) ↔
        ¬ (Passes ∅ (routed [oneSegment] []).encapsulatedMsg (hopAddr 9) front ∧ Taken (hopAddr 1) rh)) :=
  handledOnce_iff (routed [oneSegment] []) ∅ ⟨_, List.mem_cons_self, rfl, rfl⟩

/-- A datagram that was sent on is asked for its next header, which is processed and has it delivered too, and with
two routing headers in one it is sent on twice. -/
theorem handledOnce_fails : ¬ HandledOnce 0 ((routed [oneSegment] []).datagramLog ∅) ∧
    ((routed [oneSegment] []).datagramLog ∅).events.map (fun e => (e.touches, e.consumes)) =
      [(true, false), (true, false), (true, false), (false, false), (false, true), (true, false), (true, false),
        (true, false)] ∧
    .header 1 ∈ ((routed [oneSegment] []).datagramLog ∅).events ∧
    ((routed [oneSegment] []).datagramLog ∅).result.map (·.1) = .ok true ∧
    ((routed [oneSegment, oneHome] []).datagramLog ∅).events.countP (·.isCopy) = 2 := by
  have behind : .header 1 ∈ ((routed [oneSegment] []).datagramLog ∅).events := by decide +kernel
  refine ⟨?_, by decide +kernel, behind, by decide +kernel, by decide +kernel⟩
  intro handled
  exact absurd (handled.unprocessed 1 behind) (by decide)

end IPv6Datagram

end IPv6Suite
