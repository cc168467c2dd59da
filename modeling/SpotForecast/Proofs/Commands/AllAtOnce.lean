import SpotForecast.Program
import SpotForecast.Proofs.History.Slot
import SpotForecast.Proofs.Pipeline.Outcome
import SpotForecast.Proofs.Service.Gate
import SpotForecast.Proofs.Tree.PlainMap

/-!
# Forecasts for all categories at once

When all categories of the registry are forecast at once, their requests share one slot for the
price history, and each of them may end in its own way.  None of this can be told from the outcomes:
each category fares as if it had been asked for alone.

* `Desk.outcomeFrom` is the outcome for a category whose history the slot has answered.  However the
  requests are mixed in the slot, it is the outcome without them (`outcomeFrom_of_answered`).
* `Desk.exists_outcome`: a listed category whose window stays within the calendar has an outcome,
  which is a forecast or says that there was too little history.
* `Desk.undated_outcome`: the outcome for a category does not depend on the time at which it is
  made, but for that time.

`forecast_all` puts these together and follows the outcomes to the end of the program.
-/

namespace SpotForecast

namespace Command

variable {ε α β : Type}

theorem exists_run_of_run_bind {x : ExceptT ε Id α} {f : α → ExceptT ε Id β} {b : β}
    (h : (x >>= f).run = .ok b) : ∃ a, x.run = .ok a ∧ (f a).run = .ok b := by
  rw [ExceptT.run_bind] at h
  cases hx : x.run with
  | error e =>
      rw [hx] at h
      cases h
  | ok a =>
      rw [hx] at h
      exact ⟨a, rfl, h⟩

theorem run_bind_of_run {x : ExceptT ε Id α} {a : α} (h : x.run = .ok a)
    (f : α → ExceptT ε Id β) : (x >>= f).run = (f a).run := by
  rw [ExceptT.run_bind, h]
  rfl

/-- Items that all give a result which tells the item give the list of their results. -/
theorem exists_mapM_eq_ok {f : α → Except ε β} {item : β → α} {items : List α}
    (h : ∀ a ∈ items, ∃ b, f a = .ok b ∧ item b = a) :
    ∃ results, items.mapM f = .ok results ∧ results.map item = items ∧
      ∀ b ∈ results, f (item b) = .ok b := by
  induction items with
  | nil => exact ⟨[], rfl, rfl, by simp⟩
  | cons a rest ih =>
      obtain ⟨b, hb, rfl⟩ := h a List.mem_cons_self
      obtain ⟨results, hrest, hitems, hall⟩ := ih (fun a ha => h a (List.mem_cons_of_mem _ ha))
      refine ⟨b :: results, ?_, ?_, ?_⟩
      · rw [List.mapM_cons, hb, hrest]
        rfl
      · rw [List.map_cons, hitems]
      · exact List.forall_mem_cons.mpr ⟨hb, hall⟩

end Command

namespace Commands

open History (Request Reply Run Move Slot)
open Command

variable {files : Files Id} {s : AppSettings} {now : Instant} {d : Desk} {details : Bool}
  {category : String} {o : Outcome}

/-! ### Outcomes -/

/-- A forecast without the time at which it was made. -/
def undatedForecast (f : Forecast) : Float × Float × Nat × String :=
  (f.mean, f.stdDeviation, f.horizonDays, f.category)

/-- An outcome without the time at which its forecast was made. -/
def undated (o : Outcome) : String × Except String (Float × Float × Nat × String) :=
  (o.1, o.2.map undatedForecast)

/-- The outcome for a category whose forecast ended in some way. -/
def outcomeOf (details : Bool) (category : String) :
    Except (Stop ForecastFault) Forecast → Except Abort Outcome
  | .ok f => .ok (category, .ok f)
  | .error (.fault e) => .ok (category, .error (e.describe details))
  | .error (.abort a) => .error a

theorem Desk.outcome_eq (d : Desk) (details : Bool) (now : Instant) (category : String) :
    d.outcome details now category = outcomeOf details category (d.forecast now category) := by
  unfold Desk.outcome
  cases d.forecast now category with
  | ok f => rfl
  | error e =>
      cases e with
      | fault e => rfl
      | abort a => rfl

theorem Desk.forecast_of_mem (hlisted : category ∈ d.service.registry.categories) :
    d.forecast now category = d.service.pipeline.forecast d.fetch category now := by
  rw [Desk.forecast, Service.forecast_of_mem hlisted]
  rfl

theorem Desk.forecast_of_notMem (h : category ∉ d.service.registry.categories) :
    d.forecast now category = .error (.fault (.unsupportedCategory category)) := by
  rw [Desk.forecast, Service.forecast_of_notMem h]
  rfl

/-- The desk reads its history through the slot, where calls take no time. -/
theorem Desk.reads (d : Desk) : History.Reads d.fetch d.history d.asOf :=
  fun _ _ => Or.inr ⟨d.timeout, 0, Nat.zero_le _, rfl⟩

/-- A forecast that is made at another time is the same but for that time. -/
theorem Desk.forecast_redate (d : Desk) (now now' : Instant) (category : String) :
    d.forecast now' category =
      (d.forecast now category).map (fun f => { f with generatedAt := now' }) := by
  by_cases hlisted : category ∈ d.service.registry.categories
  · rw [Desk.forecast_of_mem hlisted, Desk.forecast_of_mem hlisted,
      Pipeline.forecast_eq d.reads, Pipeline.forecast_eq d.reads]
    cases Pipeline.ofFetch
        (History.fetch d.history d.asOf category d.service.pipeline.settings.fetchDays) with
    | error e => rfl
    | ok observations => exact Pipeline.forecastAt_redate observations now now'
  · rw [Desk.forecast_of_notMem hlisted, Desk.forecast_of_notMem hlisted]
    rfl

/-- **Dates.**  The outcome for a category is the same at any time, but for that time. -/
theorem Desk.undated_outcome (d : Desk) (details : Bool) (now now' : Instant) (category : String) :
    (d.outcome details now' category).map undated =
      (d.outcome details now category).map undated := by
  rw [Desk.outcome_eq, Desk.outcome_eq, d.forecast_redate now now']
  cases d.forecast now category with
  | ok f => rfl
  | error e => cases e <;> rfl

theorem head?_toList_append {a : String} {c : Char} (b : String) (h : a.toList.head? = some c) :
    (a ++ b).toList.head? = some c := by
  rw [String.toList_append, List.head?_append, h]
  rfl

/-- What a user is told about too few rows is nothing that is said of a category that is not
listed. -/
theorem describe_insufficientData_ne (required actual : Nat) (category : String) :
    (ForecastFault.insufficientData required actual).describe details ≠
      (ForecastFault.unsupportedCategory category).describe details := by
  have hunsupported : (ForecastFault.unsupportedCategory category).describe details =
      "Unsupported category: " ++ category := by cases details <;> rfl
  have hhead : ("Unsupported category: " ++ category).toList.head? = some 'U' :=
    head?_toList_append category (by decide)
  intro heq
  rw [← hunsupported, ← heq] at hhead
  cases details with
  | true =>
      have hmessage : ((ForecastFault.insufficientData required actual).describe
          true).toList.head? = some 'I' := by
        refine head?_toList_append _ (head?_toList_append _ (head?_toList_append _ ?_))
        decide
      rw [hmessage] at hhead
      exact absurd hhead (by decide)
  | false =>
      have hhidden : (ForecastFault.insufficientData required actual).describe false =
          "Not enough price history to forecast this category" := rfl
      rw [hhidden] at hhead
      exact absurd hhead (by decide)

/-- **One category.**  A listed category whose window stays within the calendar has an outcome,
which does not say that it is not listed: there is a forecast, or there were too few rows. -/
theorem Desk.exists_outcome (hp : d.service.pipeline.WellFormed)
    (hlisted : category ∈ d.service.registry.categories)
    (hwindow : d.service.pipeline.WindowInCalendar category d.asOf d.history)
    (details : Bool) (now : Instant) :
    ∃ o, d.outcome details now category = .ok o ∧ o.1 = category ∧
      ∀ other, o.2 ≠ .error ((ForecastFault.unsupportedCategory other).describe details) := by
  rw [Desk.outcome_eq, Desk.forecast_of_mem hlisted]
  rcases hwindow.ends hp d.reads now with ⟨f, hf, -⟩ | ⟨n, -, hn⟩
  · rw [hf]
    exact ⟨_, rfl, rfl, fun other h => by cases h⟩
  · rw [hn]
    refine ⟨_, rfl, rfl, fun other h => ?_⟩
    exact describe_insufficientData_ne _ n other (Except.error.inj h)

/-! ### The slot -/

/-- What the desk's history says to a call: at once, what lies in the window. -/
def Desk.call (d : Desk) (category : String) : History.Call :=
  ⟨0, History.fetch d.history d.asOf category d.service.pipeline.settings.fetchDays⟩

/-- The outcome for a category whose history the slot has answered. -/
def Desk.outcomeFrom (d : Desk) (details : Bool) (now : Instant) (reply : Reply)
    (category : String) : Except Abort Outcome :=
  let fetch : Fetch Id := fun _ _ => reply.outcome
  outcomeOf details category (d.service.forecast fetch category now).run

/-- **The slot.**  However requests are mixed in the slot, the outcome for a category is the same as
without any others. -/
theorem Desk.outcomeFrom_of_answered {requests : List Request} {n i : Nat} {t : Slot}
    {r : Request} {reply : Reply}
    (hsorted : requests.Pairwise (fun a b => a.arrival ≤ b.arrival))
    (hrun : Run d.timeout (fun _ => d.call) (Slot.opened requests) n t)
    (hr : requests[i]? = some r) (hreply : (i, reply) ∈ t.answered) :
    d.outcomeFrom details now reply r.category = d.outcome details now r.category := by
  have hserved := History.getElem?_serve_of_answered hsorted hrun hreply
  have houtcome : reply.outcome = d.fetch r.category d.service.pipeline.settings.fetchDays :=
    History.outcome_of_serve hr hserved
  rw [Desk.outcome_eq, Desk.outcomeFrom, Desk.forecast]
  simp only [Service.forecast, Pipeline.forecast, houtcome]

/-! ### The commands -/

/-- If the end of the window is set, it does not matter when the desk is opened. -/
theorem openDesk_eq (hasOf : s.history.asOf.isSome) (now now' : Instant) :
    openDesk files s now = openDesk files s now' := by
  obtain ⟨asOf, hasOf⟩ := Option.isSome_iff_exists.mp hasOf
  simp only [openDesk, hasOf, Option.getD_some]

/-- A desk that was opened has the registry of a file and a pipeline that was built. -/
theorem of_openDesk (hopen : (openDesk files s now).run = .ok d) :
    (∃ text, files.read s.categories = Except.ok text ∧ d.service.registry = Registry.ofText text) ∧
      d.service.pipeline.WellFormed := by
  obtain ⟨registry, hregistry, hopen⟩ := exists_run_of_run_bind hopen
  obtain ⟨history, -, hopen⟩ := exists_run_of_run_bind hopen
  obtain ⟨⟨mean, cache⟩, -, hopen⟩ := exists_run_of_run_bind hopen
  obtain ⟨⟨std, cache'⟩, -, hopen⟩ := exists_run_of_run_bind hopen
  obtain ⟨pipeline, hpipeline, hopen⟩ := exists_run_of_run_bind hopen
  obtain rfl := Except.ok.inj hopen
  constructor
  · obtain ⟨answer, hread, hregistry⟩ := exists_run_of_run_bind hregistry
    obtain rfl := Except.ok.inj hread
    cases htext : files.read s.categories with
    | error e =>
        rw [htext] at hregistry
        cases hregistry
    | ok text =>
        rw [htext] at hregistry
        exact ⟨text, rfl, (Except.ok.inj hregistry).symm⟩
  · cases hbuild : Pipeline.build mean std s.forecast with
    | error e =>
        rw [hbuild] at hpipeline
        cases hpipeline
    | ok p =>
        rw [hbuild] at hpipeline
        obtain rfl := Except.ok.inj hpipeline
        exact (Pipeline.build_eq_ok_iff.mp hbuild).2

theorem run_forecast (hopen : (openDesk files s now).run = .ok d) (target : Target)
    {outcomes : List Outcome} (h : (target.categories d.service.registry).mapM
      (d.outcome s.details now) = .ok outcomes) :
    (forecast files s now target).run = .ok outcomes := by
  rw [forecast, run_bind_of_run hopen, h]
  rfl

theorem run_getTree {failure : ForecastFault → Failure} {cache cache' : Cache} {identifier : String}
    {l : Loaded}
    (h : Cache.get (m := Id) (treeSource files s) cache identifier = (.ok l, cache')) :
    (getTree files s failure cache identifier).run = .ok (l.tree, cache') := by
  have hlift : (ExceptT.lift (Cache.get (m := Id) (treeSource files s) cache identifier) :
      Command Id _).run = .ok (.ok l, cache') := congrArg Except.ok h
  rw [getTree, run_bind_of_run hlift]
  rfl

/-- A desk that is opened step by step. -/
theorem run_openDesk {registry : Registry} {history : List Observation} {mean std : DecisionTree}
    {cache cache' : Cache} {p : Pipeline} (hregistry : (loadRegistry files s).run = .ok registry)
    (hhistory : (loadHistory files s).run = .ok history)
    (hmean : ∀ failure, (getTree files s failure Cache.empty s.trees.mean).run = .ok (mean, cache))
    (hstd : ∀ failure, (getTree files s failure cache s.trees.std).run = .ok (std, cache'))
    (hbuild : Pipeline.build mean std s.forecast = .ok p) :
    (openDesk files s now).run =
      .ok ⟨⟨p, registry⟩, history, s.history.asOf.getD now, s.history.timeout⟩ := by
  rw [openDesk, run_bind_of_run hregistry, run_bind_of_run hhistory, run_bind_of_run (hmean _),
    run_bind_of_run (hstd _)]
  simp only [hbuild]
  rfl

/-! ### All categories -/

/-- A printed text shows an outcome: a forecast as JSON over several lines, or the category and what
a user is told instead as JSON on one line. -/
inductive Shows : Outcome → String → Prop where
  | forecast (category : String) (f : Forecast) :
      Shows (category, .ok f) (f.toJson.pretty ++ "\n")
  | message (category text : String) :
      Shows (category, .error text)
        ((Json.object [("category", .string category), ("error", .string text)]).compact ++ "\n")

theorem shows_outcome (o : Outcome) : Shows o (Printout.outcome o) := by
  obtain ⟨category, result⟩ := o
  cases result with
  | ok f => exact .forecast category f
  | error text => exact .message category text

/-- The outcomes for all categories, and what becomes of them. -/
structure AllAtOnce (files : Files Id) (s : AppSettings) (now : Instant) (d : Desk)
    (outcomes : List Outcome) : Prop where
  forecast : (forecast files s now .all).run = .ok outcomes
  /-- There is one for each entry of the registry file, in their order and as often as they
  occur. -/
  listed : ∃ text, files.read s.categories = Except.ok text ∧
    outcomes.map Prod.fst = (Registry.ofText text).categories
  /-- An outcome is also the only one for its category alone, at any time. -/
  alone : ∀ o ∈ outcomes, ∀ now', ∃ o',
    (Commands.forecast files s now' (.one o.1)).run = .ok [o'] ∧ undated o' = undated o
  supported : ∀ o ∈ outcomes, ∀ category,
    o.2 ≠ .error ((ForecastFault.unsupportedCategory category).describe s.details)
  /-- The outcomes are also what comes of answers of the slot, however the requests are mixed in it
  and whenever each forecast is made. -/
  mixed : ∀ requests n t, requests.Pairwise (fun a b => a.arrival ≤ b.arrival) →
    Run d.timeout (fun _ => d.call) (Slot.opened requests) n t →
    ∀ i r reply, requests[i]? = some r → (i, reply) ∈ t.answered →
      ∀ o ∈ outcomes, o.1 = r.category → ∀ now', ∃ o',
        d.outcomeFrom s.details now' reply o.1 = .ok o' ∧ undated o' = undated o
  /-- If the requests are those for the entries of the registry in their order, an answer makes the
  outcome at its own place. -/
  placed : ∀ requests n t, requests.Pairwise (fun a b => a.arrival ≤ b.arrival) →
    requests.map Request.category = outcomes.map Prod.fst →
    Run d.timeout (fun _ => d.call) (Slot.opened requests) n t →
    ∀ i reply, (i, reply) ∈ t.answered → ∀ now', ∃ o o', outcomes[i]? = some o ∧
      d.outcomeFrom s.details now' reply o.1 = .ok o' ∧ undated o' = undated o
  answered : ∀ requests n t, requests.Pairwise (fun a b => a.arrival ≤ b.arrival) →
    Run d.timeout (fun _ => d.call) (Slot.opened requests) n t →
    (∀ u, ¬Move d.timeout (fun _ => d.call) t u) →
      ∀ i < requests.length, i ∈ t.answered.map Prod.fst
  printed : (Program.conclude (Program.execute files s now (.forecast none true)).run).output =
    String.join (outcomes.map Printout.outcome)
  shown : ∀ o ∈ outcomes, Shows o (Printout.outcome o)
  fails_iff : (Program.conclude (Program.execute files s now (.forecast none true)).run).code = 1 ↔
    ∃ o ∈ outcomes, ∃ text, o.2 = .error text
  succeeds_iff :
    (Program.conclude (Program.execute files s now (.forecast none true)).run).code = 0 ↔
      ∀ o ∈ outcomes, ∃ f, o.2 = .ok f

theorem failedCount_eq_zero_iff {outcomes : List Outcome} :
    Program.failedCount outcomes = 0 ↔ ∀ o ∈ outcomes, ∃ f, o.2 = .ok f := by
  rw [Program.failedCount, List.length_eq_zero_iff, List.filter_eq_nil_iff]
  refine forall₂_congr fun o _ => ?_
  cases o.2 with
  | ok f => simp
  | error text => simp

theorem failedCount_ne_zero_iff {outcomes : List Outcome} :
    Program.failedCount outcomes ≠ 0 ↔ ∃ o ∈ outcomes, ∃ text, o.2 = .error text := by
  rw [ne_eq, failedCount_eq_zero_iff]
  push Not
  refine exists_congr fun o => and_congr_right fun _ => ?_
  cases o.2 with
  | ok f => simp
  | error text => simp

/-- The program prints some outcomes and ends with the code for a failure, or for success. -/
theorem conclude_forecasts (outcomes : List Outcome) :
    ∃ complaint, Program.conclude (.ok (Program.forecasts outcomes)) =
      ⟨if Program.failedCount outcomes = 0 then 0 else 1,
        String.join (outcomes.map Printout.outcome), complaint⟩ := by
  rw [Program.forecasts]
  by_cases hnone : Program.failedCount outcomes = 0
  · rw [if_pos hnone, if_pos hnone]
    exact ⟨_, rfl⟩
  · rw [if_neg hnone, if_neg hnone]
    exact ⟨_, rfl⟩

theorem output_forecasts (outcomes : List Outcome) :
    (Program.conclude (.ok (Program.forecasts outcomes))).output =
      String.join (outcomes.map Printout.outcome) := by
  obtain ⟨complaint, hconclude⟩ := conclude_forecasts outcomes
  rw [hconclude]

/-- The code tells of a message among the outcomes. -/
theorem code_forecasts_eq_one_iff {outcomes : List Outcome} :
    (Program.conclude (.ok (Program.forecasts outcomes))).code = 1 ↔
      ∃ o ∈ outcomes, ∃ text, o.2 = .error text := by
  obtain ⟨complaint, hconclude⟩ := conclude_forecasts outcomes
  rw [hconclude, ← failedCount_ne_zero_iff]
  by_cases hnone : Program.failedCount outcomes = 0
  · simp [hnone]
  · simp [hnone]

/-- The code is that for success if all outcomes are forecasts. -/
theorem code_forecasts_eq_zero_iff {outcomes : List Outcome} :
    (Program.conclude (.ok (Program.forecasts outcomes))).code = 0 ↔
      ∀ o ∈ outcomes, ∃ f, o.2 = .ok f := by
  obtain ⟨complaint, hconclude⟩ := conclude_forecasts outcomes
  rw [hconclude, ← failedCount_eq_zero_iff]
  by_cases hnone : Program.failedCount outcomes = 0
  · simp [hnone]
  · simp [hnone]

theorem Desk.exists_undated_outcome (h : d.outcome details now category = .ok o)
    (now' : Instant) :
    ∃ o', d.outcome details now' category = .ok o' ∧ undated o' = undated o := by
  have hundated := d.undated_outcome details now now' category
  rw [h] at hundated
  cases hother : d.outcome details now' category with
  | error a =>
      rw [hother] at hundated
      cases hundated
  | ok o' =>
      rw [hother] at hundated
      exact ⟨o', rfl, Except.ok.inj hundated⟩

/-- The outcomes for all categories exist, one for each entry of the registry. -/
theorem Desk.exists_outcomes (hp : d.service.pipeline.WellFormed)
    (hcalendar : ∀ category ∈ d.service.registry.categories,
      d.service.pipeline.WindowInCalendar category d.asOf d.history)
    (details : Bool) (now : Instant) :
    ∃ outcomes, d.service.registry.categories.mapM (d.outcome details now) = .ok outcomes ∧
      outcomes.map Prod.fst = d.service.registry.categories ∧
      ∀ o ∈ outcomes, d.outcome details now o.1 = .ok o := by
  apply exists_mapM_eq_ok
  intro category hlisted
  obtain ⟨o, ho, hcategory, -⟩ :=
    Desk.exists_outcome hp hlisted (hcalendar category hlisted) details now
  exact ⟨o, ho, hcategory⟩

/-- What the slot answers to a request makes the outcome for its category, at any time. -/
theorem Desk.exists_outcomeFrom {requests : List Request} {n i : Nat} {t : Slot} {r : Request}
    {reply : Reply} (h : d.outcome details now o.1 = .ok o)
    (hsorted : requests.Pairwise (fun a b => a.arrival ≤ b.arrival))
    (hrun : Run d.timeout (fun _ => d.call) (Slot.opened requests) n t)
    (hr : requests[i]? = some r) (hreply : (i, reply) ∈ t.answered) (hcategory : o.1 = r.category)
    (now' : Instant) :
    ∃ o', d.outcomeFrom details now' reply o.1 = .ok o' ∧ undated o' = undated o := by
  obtain ⟨o', ho', hundated⟩ := Desk.exists_undated_outcome h now'
  rw [hcategory] at ho' ⊢
  exact ⟨o', (Desk.outcomeFrom_of_answered hsorted hrun hr hreply).trans ho', hundated⟩

/-- If requests are those for the categories of outcomes, place by place, then an answer of the slot
makes the outcome at its place. -/
theorem Desk.exists_outcomeFrom_at {outcomes : List Outcome} {requests : List Request} {n i : Nat}
    {t : Slot} {reply : Reply} (h : ∀ o ∈ outcomes, d.outcome details now o.1 = .ok o)
    (hsorted : requests.Pairwise (fun a b => a.arrival ≤ b.arrival))
    (hplaces : requests.map Request.category = outcomes.map Prod.fst)
    (hrun : Run d.timeout (fun _ => d.call) (Slot.opened requests) n t)
    (hreply : (i, reply) ∈ t.answered) (now' : Instant) :
    ∃ o o', outcomes[i]? = some o ∧ d.outcomeFrom details now' reply o.1 = .ok o' ∧
      undated o' = undated o := by
  obtain ⟨r, hr⟩ := History.exists_request_of_answered hsorted hrun hreply
  have hplace : (outcomes.map Prod.fst)[i]? = some r.category := by
    rw [← hplaces, List.getElem?_map, hr]
    rfl
  rw [List.getElem?_map] at hplace
  obtain ⟨o, ho, hcategory⟩ := Option.map_eq_some_iff.mp hplace
  have houtcome := h o (List.mem_of_getElem? ho)
  obtain ⟨o', ho', hundated⟩ :=
    Desk.exists_outcomeFrom houtcome hsorted hrun hr hreply hcategory now'
  exact ⟨o, o', ho, ho', hundated⟩

theorem run_forecast_one (hasOf : s.history.asOf.isSome)
    (hopen : (openDesk files s now).run = .ok d) {now' : Instant}
    (h : d.outcome s.details now' category = .ok o) :
    (forecast files s now' (.one category)).run = .ok [o] := by
  have hopen' : (openDesk files s now').run = .ok d := openDesk_eq hasOf now now' ▸ hopen
  apply run_forecast hopen' (.one category)
  rw [Target.categories, List.mapM_cons, h]
  rfl

theorem run_execute_forecasts {outcomes : List Outcome}
    (h : (forecast files s now .all).run = .ok outcomes) :
    (Program.execute files s now (.forecast none true)).run =
      .ok (Program.forecasts outcomes) := by
  rw [Program.execute, run_bind_of_run h]
  rfl

/-- **All categories at once.**  If the desk can be opened and all windows stay within the calendar,
the entries of the registry have their outcomes, and each fares as it does alone. -/
theorem forecast_all (hasOf : s.history.asOf.isSome) (hopen : (openDesk files s now).run = .ok d)
    (hcalendar : ∀ category ∈ d.service.registry.categories,
      d.service.pipeline.WindowInCalendar category d.asOf d.history) :
    ∃ outcomes, AllAtOnce files s now d outcomes := by
  obtain ⟨⟨text, htext, hregistry⟩, hp⟩ := of_openDesk hopen
  obtain ⟨outcomes, hmap, hcategories, houtcomes⟩ :=
    Desk.exists_outcomes hp hcalendar s.details now
  have hlisted : ∀ o ∈ outcomes, o.1 ∈ d.service.registry.categories := by
    intro o ho
    rw [← hcategories]
    exact List.mem_map_of_mem ho
  have hforecast : (forecast files s now .all).run = .ok outcomes := run_forecast hopen .all hmap
  have hexecute := run_execute_forecasts hforecast
  refine ⟨outcomes, ?_⟩
  constructor
  case forecast => exact hforecast
  case listed =>
    rw [hregistry] at hcategories
    exact ⟨text, htext, hcategories⟩
  case alone =>
    intro o ho now'
    obtain ⟨o', ho', hundated⟩ := Desk.exists_undated_outcome (houtcomes o ho) now'
    exact ⟨o', run_forecast_one hasOf hopen ho', hundated⟩
  case supported =>
    intro o ho
    obtain ⟨o', ho', -, hsupported⟩ :=
      Desk.exists_outcome hp (hlisted o ho) (hcalendar o.1 (hlisted o ho)) s.details now
    obtain rfl := Except.ok.inj ((houtcomes o ho).symm.trans ho')
    exact hsupported
  case mixed =>
    intro requests n t hsorted hrun i r reply hr hreply o ho hcategory now'
    exact Desk.exists_outcomeFrom (houtcomes o ho) hsorted hrun hr hreply hcategory now'
  case placed =>
    intro requests n t hsorted hplaces hrun i reply hreply now'
    exact Desk.exists_outcomeFrom_at houtcomes hsorted hplaces hrun hreply now'
  case answered =>
    intro requests n t hsorted hrun hstuck i hi
    exact History.mem_answered_of_stuck hsorted hrun hstuck hi
  case printed => rw [hexecute, output_forecasts]
  case shown => exact fun o _ => shows_outcome o
  case fails_iff => rw [hexecute, code_forecasts_eq_one_iff]
  case succeeds_iff => rw [hexecute, code_forecasts_eq_zero_iff]

/-! ### Small files -/

/-- Files with a category that is listed twice and has prices, a text that is no key, a category
without prices, and a tree that is a leaf. -/
def smallFiles : Files Id where
  read path :=
    if path = "categories" then .ok "a__b__c\nx\na__b__c\nd__e__f\n"
    else if path = "feed" then
      .ok "0\t1.0\t1970-01-01T00:00:00Z\ta\tb\tc\n0\t2.0\t1970-01-03T00:00:00Z\ta\tb\tc\n"
    else if path = "trees/leaf.json" then .ok "2"
    else .error .missing
  readRough _ := .error .missing
  isFile _ := false
  isPresent _ := false

/-- Settings for the small files, with no time for a call of the history. -/
def smallSettings : AppSettings where
  forecast := ⟨24, 1, 7⟩
  trees := ⟨"trees", "leaf", "leaf", "json"⟩
  categories := "categories"
  history := ⟨"feed", 0, some ⟨259200, 0⟩⟩
  logging := ⟨"info", "pretty"⟩
  details := true

def smallTree : DecisionTree := ⟨"leaf", .leaf 2.0⟩

def smallHistory : List Observation :=
  [⟨⟨0, 0⟩, 1.0, ⟨"a", "b", "c"⟩⟩, ⟨⟨172800, 0⟩, 2.0, ⟨"a", "b", "c"⟩⟩]

/-- What is on the desk once it is open. -/
def smallDesk : Desk where
  service := ⟨⟨smallTree, smallTree, ⟨24, 1, 7⟩⟩, ⟨["a__b__c", "x", "a__b__c", "d__e__f"]⟩⟩
  history := smallHistory
  asOf := ⟨259200, 0⟩
  timeout := 0

theorem treeSource_smallFiles :
    treeSource smallFiles smallSettings "leaf" = Except.ok (.number (.integer 2)) := by
  have hscan : Json.scanToken '2' [] =
      some (.scalar (.number (some (.integer 2))), []) := rfl
  have htokens : Json.tokens ['2'] = some [.scalar (.number (some (.integer 2)))] := by
    rw [Json.tokens, if_neg (by decide)]
    split
    case h_1 hnone =>
      rw [hscan] at hnone
      cases hnone
    case h_2 token after hsome =>
      rw [hscan] at hsome
      cases hsome
      rw [Json.tokens]
      rfl
  have hdocument : Json.document "2" = some (.number (.integer 2)) := by
    change ((Json.tokens ['2']).bind _ |>.bind _ |>.map Json.sorted) = _
    rw [htokens]
    rfl
  change TreeSource.ofDocument "2" = _
  rw [TreeSource.ofDocument, hdocument]

theorem load_smallTree : DecisionTree.load "leaf" (.number (.integer 2)) = .ok smallTree := by
  have hfinite : (Json.Number.integer 2).toFloat? = some 2.0 := by decide +kernel
  simp [DecisionTree.load, Tree.ofJson, Tree.start, Tree.documentPath, Json.path?, Json.get?,
    hfinite, smallTree]

theorem get_smallTree : Cache.get (m := Id) (treeSource smallFiles smallSettings) Cache.empty
    "leaf" = (.ok ⟨smallTree, 0⟩, ⟨[("leaf", 0)], [(0, ⟨smallTree, 0⟩)], 1, 1⟩) := by
  have hload : DecisionTree.ofAnswer "leaf" (.ok (.number (.integer 2))) = .ok smallTree :=
    load_smallTree
  rw [Cache.get_of_find?_eq_none (c := Cache.empty) rfl rfl, treeSource_smallFiles]
  simp only [bind, hload]
  rfl

theorem openDesk_smallFiles :
    (openDesk smallFiles smallSettings ⟨0, 0⟩).run = .ok smallDesk := by
  have hregistry : (loadRegistry smallFiles smallSettings).run =
      .ok smallDesk.service.registry := rfl
  have hhistory : (loadHistory smallFiles smallSettings).run = .ok smallHistory := rfl
  have hbuild : Pipeline.build smallTree smallTree ⟨24, 1, 7⟩ =
      .ok smallDesk.service.pipeline := by decide +kernel
  exact run_openDesk hregistry hhistory (fun _ => run_getTree get_smallTree)
    (fun _ => run_getTree rfl) hbuild

theorem windowInCalendar_smallDesk (category : String) :
    smallDesk.service.pipeline.WindowInCalendar category smallDesk.asOf smallDesk.history := by
  intro key _
  have hstart : smallDesk.asOf.daysBefore? 8 = some ⟨-432000, 0⟩ := by decide +kernel
  refine ⟨⟨-432000, 0⟩, hstart, ?_⟩
  change Grid.StaysInCalendar 24
    (smallHistory.filter (History.inWindow key ⟨-432000, 0⟩ smallDesk.asOf))
  by_cases hkey : key = ⟨"a", "b", "c"⟩
  · have hfound : smallHistory.filter (History.inWindow key ⟨-432000, 0⟩ smallDesk.asOf) =
        smallHistory := by
      rw [hkey]
      decide +kernel
    rw [hfound]
    exact (Grid.fits_iff (by decide) (List.cons_ne_nil _ _)).mp (by decide)
  · have hnone : smallHistory.filter (History.inWindow key ⟨-432000, 0⟩ smallDesk.asOf) = [] := by
      simp [smallHistory, History.inWindow, Ne.symm hkey]
    rw [hnone]
    intro first last hfirst
    cases hfirst

/-- The small files have outcomes for all categories at once. -/
theorem forecast_all_smallFiles :
    smallSettings.history.asOf.isSome ∧
      (openDesk smallFiles smallSettings ⟨0, 0⟩).run = .ok smallDesk ∧
      (∀ category ∈ smallDesk.service.registry.categories,
        smallDesk.service.pipeline.WindowInCalendar category smallDesk.asOf smallDesk.history) ∧
      ∃ outcomes, AllAtOnce smallFiles smallSettings ⟨0, 0⟩ smallDesk outcomes := by
  have hasOf : smallSettings.history.asOf.isSome := rfl
  have hcalendar : ∀ category ∈ smallDesk.service.registry.categories,
      smallDesk.service.pipeline.WindowInCalendar category smallDesk.asOf smallDesk.history :=
    fun category _ => windowInCalendar_smallDesk category
  exact ⟨hasOf, openDesk_smallFiles, hcalendar, forecast_all hasOf openDesk_smallFiles hcalendar⟩

end Commands

end SpotForecast
