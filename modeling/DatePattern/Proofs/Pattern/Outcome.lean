import DatePattern.Proofs.Pattern.Rendering

/-! What a call comes to when its localizer does not look back: the same from every session. So it is
that of a computation without a session, in which the localizer is a function of its calls. -/
namespace DatePattern

namespace Run

variable {α β : Type} {x : Run α} {e : Except Fault α}

/-- The run comes to the result from every session. -/
def Gives (x : Run α) (e : Except Fault α) : Prop := ∀ s, (x.run.run s).1 = e

theorem gives_pure (a : α) : (pure a : Run α).Gives (.ok a) := fun _ => rfl

theorem gives_throw (f : Fault) : (throw f : Run α).Gives (.error f) := fun _ => rfl

theorem gives_ofExcept (e : Except Fault α) : (ofExcept e).Gives e := by
  cases e with
  | ok a => exact gives_pure a
  | error f => exact gives_throw f

theorem Gives.bind {f : α → Run β} {g : α → Except Fault β} (hx : x.Gives e)
    (hf : ∀ a, (f a).Gives (g a)) : (x >>= f).Gives (e >>= g) := by
  intro s
  have hresult := hx s
  rw [run_bind]
  cases hrun : x.run.run s with
  | mk r t =>
    rw [hrun] at hresult
    subst hresult
    cases r with
    | ok a => exact hf a t
    | error fault => rfl

theorem gives_warn (text : Option String) : (warn text).Gives (.ok ()) := by
  cases text with
  | none => exact gives_pure ()
  | some text => exact fun _ => rfl

/-- A warning changes nothing of what comes after it. -/
theorem Gives.after_warn (hx : x.Gives e) (text : Option String) :
    (warn text >>= fun _ => x).Gives e :=
  (gives_warn text).bind (g := fun _ => e) fun _ => hx

theorem gives_mapM {f : α → Run β} {g : α → Except Fault β} (h : ∀ a, (f a).Gives (g a))
    (as : List α) : (as.mapM f).Gives (as.mapM g) := by
  induction as with
  | nil => exact gives_pure []
  | cons a as ih =>
    rw [List.mapM_cons, List.mapM_cons]
    exact (h a).bind fun b => ih.bind fun bs => gives_pure (b :: bs)

end Run

theorem mapM_congr {α β ε : Type} {f g : α → Except ε β} {as : List α}
    (h : ∀ a ∈ as, f a = g a) : as.mapM f = as.mapM g := by
  induction as with
  | nil => rfl
  | cons a as ih =>
    obtain ⟨hhead, htail⟩ := List.forall_mem_cons.mp h
    rw [List.mapM_cons, List.mapM_cons, hhead, ih htail]

/-- The answer to a call that no other came before. -/
def Localizer.reply (l : Localizer) (c : Call) : Except Fault String := (l.answer [] c).result

theorem Run.gives_ask {l : Localizer} (hl : l.IsStateless) (c : Call) :
    (ask l c).Gives (l.reply c) := by
  intro s
  rw [run_ask, hl s.calls [] c]
  rfl

def Request.answer (l : Localizer) : Request → Except Fault String
  | .text s => .ok s
  | .call signOf c => do
    let s ← l.reply c
    (signedText signOf s).mapError Fault.argument

def Step.answer (asks : Reading) (l : Localizer) (o : Options) : Step → Except Fault String
  | .literal cs => .ok (String.ofList cs)
  | .field f r ordinal => do
    let request ← asks f r.length (if ordinal then o.withOrdinal else o)
    request.answer l

def Plan.answer (asks : Reading) (l : Localizer) (o : Options) (p : Plan) : Except Fault String := do
  let texts ← p.steps.mapM (Step.answer asks l o)
  match p.fault? with
  | some f => .error f.fault
  | none => .ok (String.join texts)

section

variable {l : Localizer} {o : Options}

theorem Request.gives_render (hl : l.IsStateless) (request : Request) :
    (request.render l).Gives (request.answer l) := by
  cases request with
  | text s => exact Run.gives_pure s
  | call signOf c => exact (Run.gives_ask hl c).bind fun s => Run.gives_ofExcept _

theorem Field.gives_render (hl : l.IsStateless) (asks : Reading) (f : Field) (length : Int)
    (o : Options) :
    (f.render length asks l o).Gives (do
      let request ← asks f length o
      request.answer l) :=
  (Run.gives_ofExcept _).bind fun request => request.gives_render hl

theorem Step.gives_render (hl : l.IsStateless) (asks : Reading) (step : Step) :
    (step.render asks l o).Gives (step.answer asks l o) := by
  cases step with
  | literal cs => exact Run.gives_pure (String.ofList cs)
  | field f r ordinal => exact (f.gives_render hl asks r.length _).after_warn _

theorem Plan.gives_render (hl : l.IsStateless) (asks : Reading) (p : Plan) :
    (p.render asks l o).Gives (p.answer asks l o) := by
  refine (Run.gives_mapM (Step.gives_render hl asks) p.steps).bind fun texts => ?_
  cases p.fault? with
  | some f => exact Run.gives_throw f.fault
  | none => exact Run.gives_pure (String.join texts)

/-- A plan comes to the same where each of its steps does. -/
theorem Plan.answer_congr {asks asks' : Reading} {l' : Localizer} {o' : Options} (p : Plan)
    (h : ∀ step ∈ p.steps, step.answer asks l o = step.answer asks' l' o') :
    p.answer asks l o = p.answer asks' l' o' := by
  rw [answer, answer, mapM_congr h]

/-- A valid date with options that pass comes to the answer of the pattern's plan. -/
theorem gives_format {date options : Argument} {registry : LocaleRegistry} {d : Dated}
    (ho : Options.ofArgument options = .ok o)
    (hd : Dated.ofArgument date (.number o.digitCount) = .ok d) (hvalid : d.isValid = .ok true)
    (hl : l.IsStateless) (pattern : String) :
    (format (some date) (some (.text pattern)) options (some l) registry).Gives
      ((Plan.ofPattern pattern).answer d.reading l o) := by
  rw [format_eq_render ho hd hvalid]
  exact (Plan.ofPattern pattern).gives_render hl d.reading

end

end DatePattern
