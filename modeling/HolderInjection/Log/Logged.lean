import HolderInjection.Log.Event

/-!
# Logged work

Work that tells about itself is a value together with the events on the way to it. Work that may
also fail keeps the events up to the failure.
-/

namespace HolderInjection

/-- A value with the events on the way to it. -/
structure Logged (α : Type) where
  value : α
  /-- The events, the first one first. -/
  log : List Event
  deriving Repr

namespace Logged

instance : Monad Logged where
  pure value := ⟨value, []⟩
  bind work next := ⟨(next work.value).value, work.log ++ (next work.value).log⟩

instance : LawfulMonad Logged :=
  LawfulMonad.mk' Logged
    (by intro α work; simp [Functor.map])
    (by intro α β value next; simp [pure, bind])
    (by intro α β γ work next last; simp [bind, List.append_assoc])

def record (event : Event) : Logged Unit :=
  ⟨(), [event]⟩

variable {α β : Type}

@[simp] theorem value_pure (value : α) : (pure value : Logged α).value = value := rfl

@[simp] theorem log_pure (value : α) : (pure value : Logged α).log = [] := rfl

@[simp] theorem value_bind (work : Logged α) (next : α → Logged β) :
    (work >>= next).value = (next work.value).value := rfl

@[simp] theorem log_bind (work : Logged α) (next : α → Logged β) :
    (work >>= next).log = work.log ++ (next work.value).log := rfl

@[simp] theorem value_record (event : Event) : (record event).value = () := rfl

@[simp] theorem log_record (event : Event) : (record event).log = [event] := rfl

/-- The values of work on a list are those of the work on its members. -/
@[simp] theorem value_mapM (work : α → Logged β) (items : List α) :
    (items.mapM work).value = items.map fun item => (work item).value := by
  induction items with
  | nil => rfl
  | cons item items ih => rw [List.mapM_cons, value_bind, value_bind, ih]; rfl

/-- The events of work on a list are those of the work on its members, in order. -/
@[simp] theorem log_mapM (work : α → Logged β) (items : List α) :
    (items.mapM work).log = items.flatMap fun item => (work item).log := by
  induction items with
  | nil => rfl
  | cons item items ih =>
    rw [List.mapM_cons, log_bind, log_bind, ih, log_pure, List.append_nil, List.flatMap_cons]

/-- So are those of work that is done for its events only. -/
@[simp] theorem log_forM (work : α → Logged Unit) (items : List α) :
    (items.forM work).log = items.flatMap fun item => (work item).log := by
  induction items with
  | nil => rfl
  | cons item items ih =>
    change (work item).log ++ (items.forM work).log = _
    rw [ih, List.flatMap_cons]

end Logged

/-- Work that tells about itself and may fail. -/
abbrev Attempt (ε α : Type) := ExceptT ε Logged α

namespace Attempt

variable {ε α : Type}

/-- Work without events. -/
def ofExcept (result : Except ε α) : Attempt ε α :=
  ExceptT.mk (pure result)

def ofLogged (work : Logged α) : Attempt ε α :=
  ExceptT.lift work

def record (event : Event) : Attempt ε Unit :=
  ofLogged (Logged.record event)

/-- The same work, with its failure told in other terms. -/
def mapError {δ : Type} (f : ε → δ) (work : Attempt ε α) : Attempt δ α :=
  ExceptT.mk ⟨work.run.value.mapError f, work.run.log⟩

/-- What the work comes to, whatever it tells on the way. -/
def result (work : Attempt ε α) : Except ε α :=
  work.run.value

/-- The events on the way to what the work comes to, up to a failure. -/
def log (work : Attempt ε α) : List Event :=
  work.run.log

variable {β : Type}

@[simp] theorem result_pure (value : α) : (pure value : Attempt ε α).result = .ok value := rfl

@[simp] theorem result_throw (problem : ε) : (throw problem : Attempt ε α).result = .error problem :=
  rfl

@[simp] theorem result_ofExcept (result : Except ε α) : (ofExcept result).result = result := rfl

@[simp] theorem result_ofLogged (work : Logged α) :
    (ofLogged work : Attempt ε α).result = .ok work.value := rfl

@[simp] theorem result_record (event : Event) : (record event : Attempt ε Unit).result = .ok () :=
  rfl

@[simp] theorem result_mapError {δ : Type} (f : ε → δ) (work : Attempt ε α) :
    (work.mapError f).result = work.result.mapError f := rfl

@[simp] theorem result_bind (work : Attempt ε α) (next : α → Attempt ε β) :
    (work >>= next).result = work.result >>= fun value => (next value).result := by
  change (ExceptT.bindCont next work.run.value).value = work.run.value >>= _
  cases work.run.value <;> rfl

/-- Work on a list comes to what the work on its members does, up to the first failure. -/
@[simp] theorem result_mapM (work : α → Attempt ε β) (items : List α) :
    (items.mapM work).result = items.mapM fun item => (work item).result := by
  induction items with
  | nil => rfl
  | cons item items ih =>
    simp only [List.mapM_cons, result_bind, ih, result_pure]
    rfl

@[simp] theorem log_pure (value : α) : (pure value : Attempt ε α).log = [] := rfl

@[simp] theorem log_throw (problem : ε) : (throw problem : Attempt ε α).log = [] := rfl

@[simp] theorem log_ofExcept (result : Except ε α) : (ofExcept result).log = [] := rfl

@[simp] theorem log_ofLogged (work : Logged α) : (ofLogged work : Attempt ε α).log = work.log := by
  change work.log ++ [] = work.log
  rw [List.append_nil]

@[simp] theorem log_record (event : Event) : (record event : Attempt ε Unit).log = [event] := rfl

@[simp] theorem log_mapError {δ : Type} (f : ε → δ) (work : Attempt ε α) :
    (work.mapError f).log = work.log := rfl

/-- Work that fails tells nothing of what was to come after it. -/
theorem log_bind_of_error {work : Attempt ε α} {problem : ε} (h : work.result = .error problem)
    (next : α → Attempt ε β) : (work >>= next).log = work.log := by
  change work.log ++ (ExceptT.bindCont next work.result).log = work.log
  rw [h]
  exact List.append_nil _

theorem log_bind_of_ok {work : Attempt ε α} {value : α} (h : work.result = .ok value)
    (next : α → Attempt ε β) : (work >>= next).log = work.log ++ (next value).log := by
  change work.log ++ (ExceptT.bindCont next work.result).log = work.log ++ _
  rw [h]
  rfl

@[simp] theorem log_bind_pure (work : Attempt ε α) (f : α → β) :
    (work >>= fun value => pure (f value)).log = work.log := by
  cases hresult : work.result with
  | error problem => exact log_bind_of_error hresult _
  | ok value => rw [log_bind_of_ok hresult, log_pure, List.append_nil]

/-- An event of composed work is one of its first part, or of what comes after its success. -/
theorem mem_log_bind {work : Attempt ε α} {next : α → Attempt ε β} {event : Event}
    (h : event ∈ (work >>= next).log) :
    event ∈ work.log ∨ ∃ value, work.result = .ok value ∧ event ∈ (next value).log := by
  cases hresult : work.result with
  | error problem =>
    rw [log_bind_of_error hresult] at h
    exact .inl h
  | ok value =>
    rw [log_bind_of_ok hresult, List.mem_append] at h
    exact h.imp_right fun hnext => ⟨value, rfl, hnext⟩

end Attempt

end HolderInjection
