import IPv6Suite.Lib.Exec

namespace Lib

/-- A computation with the events it has recorded, also those before a fault that ends it -/
structure Logged (ε α : Type) where
  events : List ε
  result : Exec α

namespace Logged

variable {ε α β : Type}

instance monad : Monad (Logged ε) where
  pure value := ⟨[], .ok value⟩
  bind first next := match first.result with
    | .ok value => ⟨first.events ++ (next value).events, (next value).result⟩
    | .error fault => ⟨first.events, .error fault⟩

def record (es : List ε) : Logged ε Unit := ⟨es, .ok ()⟩

/-- A computation that records nothing -/
def lift (x : Exec α) : Logged ε α := ⟨[], x⟩

/-- What was recorded before -/
def prepend (es : List ε) (log : Logged ε α) : Logged ε α := ⟨es ++ log.events, log.result⟩

variable {first log : Logged ε α} {next : α → Logged ε β} {value : α} {fault : Fault} {es fs : List ε}

@[simp] theorem pure_events : (pure value : Logged ε α).events = [] := rfl

@[simp] theorem prepend_events : (prepend es log).events = es ++ log.events := rfl

theorem prepend_prepend : prepend es (prepend fs log) = prepend (es ++ fs) log := by
  unfold prepend
  rw [List.append_assoc]

@[simp] theorem prepend_nil : prepend [] log = log := rfl

@[simp] theorem pure_bind : (pure value >>= next) = next value := rfl

theorem bind_of_ok (returns : first.result = .ok value) : first >>= next = prepend first.events (next value) := by
  change (match first.result with
    | .ok value => _
    | .error fault => _) = _
  rw [returns]
  rfl

theorem bind_of_error (fails : first.result = .error fault) : first >>= next = ⟨first.events, .error fault⟩ := by
  change (match first.result with
    | .ok value => _
    | .error fault => _) = _
  rw [fails]

@[simp] theorem record_bind {next : Unit → Logged ε β} : record es >>= next = prepend es (next ()) := rfl

@[simp] theorem lift_ok_bind : lift (.ok value) >>= next = next value := rfl

@[simp] theorem prepend_bind : prepend es first >>= next = prepend es (first >>= next) := by
  cases returns : first.result with
  | ok value =>
      have prepended : (prepend es first).result = .ok value := returns
      rw [bind_of_ok returns, prepend_prepend, bind_of_ok prepended]
      rfl
  | error fault =>
      have prepended : (prepend es first).result = .error fault := returns
      rw [bind_of_error returns, bind_of_error prepended]
      rfl

theorem bind_pure_events (f : α → β) : (log >>= fun a => pure (f a)).events = log.events := by
  cases returns : log.result with
  | ok value =>
      rw [bind_of_ok returns]
      exact List.append_nil _
  | error fault => rw [bind_of_error returns]

theorem bind_pure_result (f : α → β) : (log >>= fun a => pure (f a)).result = log.result.map f := by
  cases returns : log.result with
  | ok value =>
      rw [bind_of_ok returns]
      rfl
  | error fault =>
      rw [bind_of_error returns]
      rfl

end Logged

end Lib
