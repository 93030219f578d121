import StubGraft.Run.World

/-!
# How actions end

Actions on a disk and on a world are programs with a state that outlives an error.  What is
proved of them is said by `Ends`: from a state on, an action ends with a result, or an error,
and a state of which a property holds.  There is one rule for each way to build an action, so
that proofs follow the text of the programs.
-/

namespace StubGraft

/-- From a state on, an action ends with a result and a state of which a property holds. -/
def Ends {ε σ α : Type} (action : ExceptT ε (StateM σ) α) (state : σ)
    (post : Except ε α → σ → Prop) : Prop :=
  post (action.run state).1 (action.run state).2

/-! ## Sequences and errors -/

section Rules

variable {ε σ α β : Type} {state : σ}

theorem Ends.mono {action : ExceptT ε (StateM σ) α} {post weaker : Except ε α → σ → Prop}
    (h : Ends action state post) (himp : ∀ result after, post result after → weaker result after) :
    Ends action state weaker :=
  himp _ _ h

/-- What is asked of the end of an action may be said in another way. -/
theorem ends_congr {action : ExceptT ε (StateM σ) α}
    {post also : Except ε α → σ → Prop}
    (h : ∀ result after, post result after ↔ also result after) :
    Ends action state post ↔ Ends action state also :=
  h _ _

/-- What holds of an action in two ways. -/
theorem Ends.and {action : ExceptT ε (StateM σ) α}
    {post also : Except ε α → σ → Prop} (h : Ends action state post) (h' : Ends action state also) :
    Ends action state fun result after => post result after ∧ also result after :=
  ⟨h, h'⟩

@[simp] theorem ends_pure {a : α} {post : Except ε α → σ → Prop} :
    Ends (pure a : ExceptT ε (StateM σ) α) state post ↔ post (.ok a) state :=
  Iff.rfl

/-- An action after another starts where that one ends, unless it ends in an error. -/
theorem ends_bind {action : ExceptT ε (StateM σ) α} {next : α → ExceptT ε (StateM σ) β}
    {post : Except ε β → σ → Prop} :
    Ends (action >>= next) state post ↔ Ends action state fun result middle =>
      match result with
      | .ok a => Ends (next a) middle post
      | .error e => post (.error e) middle := by
  unfold Ends
  show post (StateT.run (ExceptT.run (action >>= next)) state).1 _ ↔ _
  simp only [ExceptT.run, bind, ExceptT.bind, ExceptT.mk, StateT.bind, StateT.run,
    ExceptT.bindCont]
  rcases action state with ⟨result, middle⟩
  cases result <;> rfl

/-- The rule for sequences, with a property of the state in between. -/
theorem Ends.bind {action : ExceptT ε (StateM σ) α} {next : α → ExceptT ε (StateM σ) β}
    {middle : Except ε α → σ → Prop} {post : Except ε β → σ → Prop}
    (h : Ends action state middle)
    (hok : ∀ a after, middle (.ok a) after → Ends (next a) after post)
    (herror : ∀ e after, middle (.error e) after → post (.error e) after) :
    Ends (action >>= next) state post := by
  refine ends_bind.2 (h.mono fun result after hmiddle => ?_)
  cases result with
  | ok a => exact hok a after hmiddle
  | error e => exact herror e after hmiddle

theorem ends_tryCatch {action : ExceptT ε (StateM σ) α} {handle : ε → ExceptT ε (StateM σ) α}
    {post : Except ε α → σ → Prop} :
    Ends (tryCatch action handle) state post ↔ Ends action state fun result middle =>
      match result with
      | .ok a => post (.ok a) middle
      | .error e => Ends (handle e) middle post := by
  have hrun : (tryCatch action handle).run state =
      match action.run state with
      | (.ok a, middle) => (.ok a, middle)
      | (.error e, middle) => (handle e).run middle := by
    show ExceptT.tryCatch action handle state = _
    simp only [bind, ExceptT.tryCatch, ExceptT.mk, StateT.bind, ExceptT.run]
    rcases action state with ⟨result, middle⟩
    cases result <;> rfl
  rw [Ends, Ends, hrun]
  rcases action.run state with ⟨result, middle⟩
  cases result <;> rfl

@[simp] theorem ends_get {post : Except ε σ → σ → Prop} :
    Ends (get : ExceptT ε (StateM σ) σ) state post ↔ post (.ok state) state :=
  Iff.rfl

@[simp] theorem ends_modify {f : σ → σ} {post : Except ε PUnit → σ → Prop} :
    Ends (modify f : ExceptT ε (StateM σ) PUnit) state post ↔ post (.ok ⟨⟩) (f state) :=
  Iff.rfl

end Rules

/-! ## Disk operations -/

namespace DiskAction

variable {disk : Disk} {α : Type}

@[simp] theorem ends_ask {query : Disk → Except SystemError α}
    {post : Except DiskFault α → Disk → Prop} :
    Ends (ask query) disk post ↔ post ((query disk).mapError .system) disk := by
  unfold ask
  rw [ends_bind, ends_get]
  dsimp only
  cases query disk <;> exact Iff.rfl

@[simp] theorem ends_change {update : Disk → Except DiskFault Disk}
    {post : Except DiskFault PUnit → Disk → Prop} :
    Ends (change update) disk post ↔
      match update disk with
      | .ok after => post (.ok ⟨⟩) after
      | .error e => post (.error e) disk := by
  unfold change
  rw [ends_bind, ends_get]
  dsimp only
  cases update disk <;> exact Iff.rfl

end DiskAction

/-! ## Steps on a world -/

namespace Action

variable {world : World} {α : Type}

@[simp] theorem ends_ofExcept {result : Except Error α} {post : Except Error α → World → Prop} :
    Ends (ofExcept result) world post ↔ post result world := by
  cases result <;> exact Iff.rfl

@[simp] theorem ends_report {events : List Event} {post : Except Error Unit → World → Prop} :
    Ends (report events) world post ↔
      post (.ok ()) { world with log := world.log ++ events } :=
  Iff.rfl

@[simp] theorem ends_disk {post : Except Error Disk → World → Prop} :
    Ends Action.disk world post ↔ post (.ok world.disk) world :=
  Iff.rfl

@[simp] theorem ends_onDisk {operations : DiskAction α}
    {post : Except Error (Except DiskFault α) → World → Prop} :
    Ends (onDisk operations) world post ↔
      Ends operations world.disk fun result disk => post (.ok result) { world with disk := disk } :=
  Iff.rfl

/-- How a refusal of disk operations is passed on. -/
def refusal (refused : SystemError → Error) : DiskFault → Error
  | .nullCharacter => .nullCharacter
  | .system e => refused e

@[simp] theorem ends_onDiskOr {refused : SystemError → Error} {operations : DiskAction α}
    {post : Except Error α → World → Prop} :
    Ends (onDiskOr refused operations) world post ↔
      Ends operations world.disk fun result disk =>
        post (result.mapError (refusal refused)) { world with disk := disk } := by
  unfold onDiskOr
  rw [ends_bind, ends_onDisk]
  refine ⟨fun h => h.mono ?_, fun h => h.mono ?_⟩
  · rintro (fault | a) disk h
    · cases fault <;> exact h
    · exact h
  · rintro (fault | a) disk h
    · cases fault <;> exact h
    · exact h

end Action
end StubGraft
