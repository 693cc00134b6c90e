import LiveConfig.Engine
import LiveConfig.Proofs.Rewriting.Renumbering

set_option autoImplicit false

namespace LiveConfig

/-- A way to look into texts: where their delimiters are, and what they are as expressions. -/
structure Reader where
  classify : String → Template
  parse : String → Except Expr.ParseError Expr

def Reader.standard : Reader where
  classify := Template.classify
  parse := Expr.parse

/-- A text that was looked into. -/
inductive Inspection where
  | scanned (text : String)
  | parsed (source : String)
deriving DecidableEq, Repr

def Inspection.scanned? : Inspection → Option String
  | .scanned text => some text
  | .parsed _ => none

def Inspection.parsed? : Inspection → Option String
  | .scanned _ => none
  | .parsed source => some source

/-- Two readers find the same in a text. -/
def Reader.Agrees (first second : Reader) : Inspection → Prop
  | .scanned text => first.classify text = second.classify text
  | .parsed source => first.parse source = second.parse source

/-- A computation that leaves it to a reader to look into texts. -/
inductive Inspecting (α : Type) where
  | done (value : α)
  | scan (text : String) (next : Template → Inspecting α)
  | parse (source : String) (next : Except Expr.ParseError Expr → Inspecting α)

namespace Inspecting

variable {α β γ : Type}

def bind : Inspecting α → (α → Inspecting β) → Inspecting β
  | done value, f => f value
  | scan text next, f => scan text fun kind => (next kind).bind f
  | parse source next, f => parse source fun result => (next result).bind f

instance : Monad Inspecting where
  pure := done
  bind := bind

theorem bind_done (m : Inspecting α) : m >>= done = m := by
  induction m with
  | done value => rfl
  | scan text next ih => exact congrArg _ (funext ih)
  | parse source next ih => exact congrArg _ (funext ih)

theorem bind_bind (m : Inspecting α) (f : α → Inspecting β) (g : β → Inspecting γ) :
    m >>= f >>= g = m >>= fun value => f value >>= g := by
  induction m with
  | done value => rfl
  | scan text next ih => exact congrArg _ (funext ih)
  | parse source next ih => exact congrArg _ (funext ih)

instance : LawfulMonad Inspecting :=
  LawfulMonad.mk' Inspecting bind_done (fun _ _ => rfl) bind_bind

/-- What the computation comes to with a reader. -/
def answer (reader : Reader) : Inspecting α → α
  | done value => value
  | scan text next => (next (reader.classify text)).answer reader
  | parse source next => (next (reader.parse source)).answer reader

/-- The texts that are looked into on the way, in order. -/
def inspections (reader : Reader) : Inspecting α → List Inspection
  | done _ => []
  | scan text next => .scanned text :: (next (reader.classify text)).inspections reader
  | parse source next => .parsed source :: (next (reader.parse source)).inspections reader

section

variable (reader : Reader)

@[simp] theorem answer_pure (value : α) : (pure value : Inspecting α).answer reader = value := rfl

@[simp] theorem inspections_pure (value : α) :
    (pure value : Inspecting α).inspections reader = [] := rfl

theorem answer_bind (m : Inspecting α) (f : α → Inspecting β) :
    (m >>= f).answer reader = (f (m.answer reader)).answer reader := by
  induction m with
  | done value => rfl
  | scan text next ih => exact ih (reader.classify text)
  | parse source next ih => exact ih (reader.parse source)

theorem inspections_bind (m : Inspecting α) (f : α → Inspecting β) :
    (m >>= f).inspections reader =
      m.inspections reader ++ (f (m.answer reader)).inspections reader := by
  induction m with
  | done value => rfl
  | scan text next ih => exact congrArg _ (ih (reader.classify text))
  | parse source next ih => exact congrArg _ (ih (reader.parse source))

end

/-- A reader matters only through what it finds in the texts that are looked into. -/
theorem answer_of_agrees {reader other : Reader} (m : Inspecting α)
    (agree : ∀ inspection ∈ m.inspections reader, other.Agrees reader inspection) :
    m.answer other = m.answer reader ∧ m.inspections other = m.inspections reader := by
  induction m with
  | done value => exact ⟨rfl, rfl⟩
  | scan text next ih =>
    have found : other.classify text = reader.classify text := agree _ List.mem_cons_self
    obtain ⟨answer_eq, inspections_eq⟩ := ih (reader.classify text) fun inspection member =>
      agree inspection (List.mem_cons_of_mem _ member)
    simp only [answer, inspections, found]
    exact ⟨answer_eq, congrArg _ inspections_eq⟩
  | parse source next ih =>
    have found : other.parse source = reader.parse source := agree _ List.mem_cons_self
    obtain ⟨answer_eq, inspections_eq⟩ := ih (reader.parse source) fun inspection member =>
      agree inspection (List.mem_cons_of_mem _ member)
    simp only [answer, inspections, found]
    exact ⟨answer_eq, congrArg _ inspections_eq⟩

end Inspecting

/-- A computation that may fail. -/
abbrev Trial := ExceptT Failure Inspecting

namespace Trial

variable {α β : Type}

def of (result : Except Failure α) : Trial α :=
  ExceptT.mk (pure result)

theorem pure_eq (value : α) : (pure value : Trial α) = of (.ok value) := rfl

theorem lift_pure_bind (value : α) (f : α → Trial β) :
    (liftM (pure value : Inspecting α) : Trial α) >>= f = f value := rfl

theorem of_bind (result : Except Failure α) (f : α → Except Failure β) :
    (of result >>= fun value => of (f value)) = of (result >>= f) := by
  cases result <;> rfl

theorem of_ite (c : Prop) [Decidable c] (yes no : Except Failure α) :
    (if c then of yes else of no) = of (if c then yes else no) :=
  (apply_ite of c yes no).symm

end Trial

/-- A computation some of whose work has to wait for calls: the work is put off, and the computation
goes on with the deferred result. -/
inductive Staged (α : Type) : Type 1 where
  | done (value : α)
  | now {β : Type} (work : Inspecting β) (next : β → Staged α)
  | later {β γ : Type} (given : Deferred β) (work : β → Inspecting γ)
    (next : Deferred γ → Staged α)

namespace Staged

variable {α β γ : Type}

def bind : Staged α → (α → Staged β) → Staged β
  | done value, f => f value
  | now work next, f => now work fun value => (next value).bind f
  | later given work next, f => later given work fun result => (next result).bind f

instance : Monad Staged where
  pure := done
  bind := bind

instance : MonadLift Inspecting Staged where
  monadLift work := now work done

def answer (reader : Reader) : Staged α → α
  | done value => value
  | now work next => (next (work.answer reader)).answer reader
  | later given work next =>
    (next (given.map fun value => (work value).answer reader)).answer reader

/-- The texts that are looked into when the calls come to the given answers. Work that is put off
counts where it is put off. -/
def inspections (reader : Reader) (answers : Answers) : Staged α → List Inspection
  | done _ => []
  | now work next =>
    work.inspections reader ++ (next (work.answer reader)).inspections reader answers
  | later given work next =>
    (work (given.read answers)).inspections reader ++
      (next (given.map fun value => (work value).answer reader)).inspections reader answers

/-- Puts work off until its calls are answered. -/
def defer (given : Deferred α) (work : α → Inspecting β) : Staged (Deferred β) :=
  later given work done

/-- Work on a result, done at once if the result is there. -/
def mapOutcome (work : α → Inspecting β) : Outcome α → Staged (Outcome β)
  | .ready value => do return .ready (← work value)
  | .pending d => do return .pending (← defer d work)

section

variable (reader : Reader) (answers : Answers)

@[simp] theorem answer_pure (value : α) : (pure value : Staged α).answer reader = value := rfl

@[simp] theorem inspections_pure (value : α) :
    (pure value : Staged α).inspections reader answers = [] := rfl

@[simp] theorem answer_lift (m : Inspecting α) :
    (monadLift m : Staged α).answer reader = m.answer reader := rfl

@[simp] theorem inspections_lift (m : Inspecting α) :
    (monadLift m : Staged α).inspections reader answers = m.inspections reader :=
  List.append_nil _

@[simp] theorem answer_bind (m : Staged α) (f : α → Staged β) :
    (m >>= f).answer reader = (f (m.answer reader)).answer reader := by
  induction m with
  | done value => rfl
  | now work next ih => exact ih _
  | later given work next ih => exact ih _

@[simp] theorem inspections_bind (m : Staged α) (f : α → Staged β) :
    (m >>= f).inspections reader answers =
      m.inspections reader answers ++ (f (m.answer reader)).inspections reader answers := by
  induction m with
  | done value => rfl
  | now work next ih => exact (congrArg _ (ih _)).trans (List.append_assoc _ _ _).symm
  | later given work next ih => exact (congrArg _ (ih _)).trans (List.append_assoc _ _ _).symm

theorem answer_foldlM (f : β → α → Staged β) (start : β) (items : List α) :
    (items.foldlM f start).answer reader =
      items.foldl (fun state item => (f state item).answer reader) start := by
  induction items generalizing start with
  | nil => rfl
  | cons item rest ih => rw [List.foldlM_cons, answer_bind, ih, List.foldl_cons]

theorem inspections_foldlM {f : β → α → Staged β} {texts : α → List Inspection}
    (each : ∀ state item, (f state item).inspections reader answers = texts item) (start : β)
    (items : List α) : (items.foldlM f start).inspections reader answers = items.flatMap texts := by
  induction items generalizing start with
  | nil => rfl
  | cons item rest ih =>
    rw [List.foldlM_cons, inspections_bind, each, ih, List.flatMap_cons]

@[simp] theorem answer_defer_pure (given : Deferred α) (f : α → β) :
    (defer given fun value => pure (f value)).answer reader = given.map f := rfl

@[simp] theorem inspections_defer_pure (given : Deferred α) (f : α → β) :
    (defer given fun value => pure (f value)).inspections reader answers = [] := rfl

@[simp] theorem answer_mapOutcome_pure (f : α → β) (o : Outcome α) :
    (mapOutcome (fun value => pure (f value)) o).answer reader = o.map f := by
  cases o <;> rfl

@[simp] theorem inspections_mapOutcome_pure (f : α → β) (o : Outcome α) :
    (mapOutcome (fun value => pure (f value)) o).inspections reader answers = [] := by
  cases o <;> rfl

end

theorem answer_of_agrees (reader other : Reader) (m : Staged α)
    (agree : ∀ answers, ∀ inspection ∈ m.inspections reader answers,
      other.Agrees reader inspection) :
    m.answer other = m.answer reader ∧
      ∀ answers, m.inspections other answers = m.inspections reader answers := by
  induction m with
  | done value => exact ⟨rfl, fun _ => rfl⟩
  | now work next ih =>
    have same := Inspecting.answer_of_agrees work fun inspection member =>
      agree (fun _ => .ok .null) inspection (List.mem_append_left _ member)
    have rest := ih (work.answer reader) fun answers inspection member =>
      agree answers inspection (List.mem_append_right _ member)
    simp only [answer, inspections, same.1, same.2]
    exact ⟨rest.1, fun answers => congrArg _ (rest.2 answers)⟩
  | later given work next ih =>
    have same (answers : Answers) := Inspecting.answer_of_agrees (work (given.read answers))
      fun inspection member => agree answers inspection (List.mem_append_left _ member)
    -- A deferred result is what it reads as, and the readers agree whatever the answers are.
    have result : (given.map fun value => (work value).answer other) =
        given.map fun value => (work value).answer reader :=
      Deferred.eq_of_read rfl fun answers => (same answers).1
    have rest := ih (given.map fun value => (work value).answer reader)
      fun answers inspection member => agree answers inspection (List.mem_append_right _ member)
    simp only [answer, inspections, result]
    refine ⟨rest.1, fun answers => ?_⟩
    rw [(same answers).2, rest.2 answers]

end Staged

end LiveConfig
