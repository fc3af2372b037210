/-
  VipChannel.Runs.Layers

  Whatever the service is asked for, it does the same with either layer of the tenant
  scoping (VipChannel.Persistence.RowPolicies) as with both.

  A task of one tenant is confined to it, so one layer reaches what the other does.  A sweep
  goes from tenant to tenant, and its step for each of them is such a task.
-/
import VipChannel.Persistence.RowPolicies
import VipChannel.Fleet.Tasks
import VipChannel.Runs.Updates

namespace VipChannel

open Lib
open Program (perform)

/-- The serial semantics under the layers. -/
def layered (L : Layers) (G : World → Op → Choice → Prop) :
    Machine Op Op.Ret PyError Connection :=
  L.step.machine fun conn => G conn.world

/-- A session in which nothing is refused, over a world. -/
structure Connection.Over (conn : Connection) (w : World) : Prop where
  world : conn.world = w
  refused : conn.refused = none

/-- The program runs under the layers as it does in the model. -/
structure Transparent {α : Type} (L : Layers) (G : World → Op → Choice → Prop) (p : App α)
    (w : World) : Prop where
  forth : ∀ {conn r w'}, conn.Over w → Runs (serial G) p w r w' →
    ∃ conn', Runs (layered L G) p conn r conn' ∧ conn'.Over w'
  back : ∀ {conn r conn'}, conn.Over w → Runs (layered L G) p conn r conn' →
    Runs (serial G) p w r conn'.world ∧ conn'.Over conn'.world

section Programs

variable {α β : Type} {L : Layers} {G : World → Op → Choice → Prop} {A : TenantId}
  {T : String → Prop} {w : World}

/-- Handlers that follow each other make a program transparent. -/
theorem transparent_of_follows {τ : Type} {D : Machine Op Op.Ret PyError τ}
    {R : τ → World → Connection → Prop}
    (h : Follows D R (serial G) (layered L G) ∧
      Follows D (fun t conn w => R t w conn) (layered L G) (serial G))
    (hover : ∀ t w conn, R t w conn → conn.Over w) {p : App α} {t : τ}
    (hp : wp D p (fun _ _ => True) t) (hstart : ∀ conn : Connection, conn.Over w → R t w conn) :
    Transparent L G p w := by
  refine ⟨fun hconn hruns => ?_, fun hconn hruns => ?_⟩
  · obtain ⟨t', conn', hruns', -, hend⟩ := hruns.followed h.1 hp (hstart _ hconn)
    exact ⟨conn', hruns', hover _ _ _ hend⟩
  · obtain ⟨t', w', hruns', -, hend⟩ := hruns.followed h.2 hp (hstart _ hconn)
    have hover' := hover _ _ _ hend
    obtain rfl := hover'.world
    exact ⟨hruns', hover'⟩

/-- A confined program needs one of the layers. -/
theorem transparent_of_confined (hL : L.criteria = true ∨ L.policies = true) {p : App α}
    (hp : Confined A T {} p) (hroutes : HomeRoutes A T w.db) : Transparent L G p w := by
  have hwp : wp (confinement A T) p (fun _ _ => True) {} :=
    wp_mono (fun _ _ _ => trivial) (hp {} (.refl {}))
  refine transparent_of_follows (R := Bound A T) (follows_both fun s v conn op c h hop => ?_)
    (fun s v conn h => ⟨h.world, h.refused⟩) hwp fun conn hconn => ?_
  · obtain ⟨hanswer, hend⟩ := h.step hL hop
    refine ⟨?_, hanswer, hend⟩
    rw [h.world]
  · refine ⟨hconn.world, hconn.refused, fun hb => ?_, hroutes, fun hb => ?_, fun hn => ?_⟩
    · cases hb
    · cases hb
    · cases hn

theorem transparent_pure (a : α) : Transparent L G (pure a : App α) w := by
  refine ⟨fun {conn _ _} hconn hruns => ?_, fun hconn hruns => ?_⟩
  · obtain ⟨rfl, rfl⟩ := hruns
    exact ⟨conn, ⟨rfl, rfl⟩, hconn⟩
  · obtain ⟨rfl, rfl⟩ := hruns
    obtain rfl := hconn.world
    exact ⟨⟨rfl, rfl⟩, hconn⟩

theorem transparent_bind {p : App α} {f : α → App β} (hp : Transparent L G p w)
    (hf : ∀ a w', Runs (serial G) p w (.ok a) w' → Transparent L G (f a) w') :
    Transparent L G (p >>= f) w := by
  refine ⟨fun hconn hruns => ?_, fun hconn hruns => ?_⟩
  · obtain ⟨x, w₁, hfirst, hrest⟩ := runs_bind hruns
    obtain ⟨conn₁, hfirst', hconn₁⟩ := hp.forth hconn hfirst
    cases x with
    | error e =>
      obtain ⟨rfl, rfl⟩ := hrest
      exact ⟨conn₁, hfirst'.bind ⟨rfl, rfl⟩, hconn₁⟩
    | ok a =>
      obtain ⟨conn', hrest', hconn'⟩ := (hf a w₁ hfirst).forth hconn₁ hrest
      exact ⟨conn', hfirst'.bind hrest', hconn'⟩
  · obtain ⟨x, conn₁, hfirst, hrest⟩ := runs_bind hruns
    obtain ⟨hfirst', hconn₁⟩ := hp.back hconn hfirst
    cases x with
    | error e =>
      obtain ⟨rfl, rfl⟩ := hrest
      exact ⟨hfirst'.bind ⟨rfl, rfl⟩, hconn₁⟩
    | ok a =>
      obtain ⟨hrest', hconn'⟩ := (hf a _ hfirst').back hconn₁ hrest
      exact ⟨hfirst'.bind hrest', hconn'⟩

/-- The registry has no policy. -/
theorem transparent_activeTenantIds : Transparent L G (perform Op.activeTenantIds) w := by
  let D : Machine Op Op.Ret PyError Unit :=
    { allowed := fun _ op => op = .activeTenantIds, steps := fun _ _ _ _ => True }
  have hwp : wp D (perform Op.activeTenantIds) (fun _ _ => True) () := by
    rw [wp_perform]
    exact ⟨rfl, fun _ _ _ => trivial⟩
  refine transparent_of_follows (D := D) (R := fun _ w conn => conn.Over w)
    (follows_both fun _ v conn op c h hop => ?_) (fun _ _ _ h => h) hwp fun _ hconn => hconn
  obtain rfl : op = .activeTenantIds := hop
  obtain rfl := h.world
  exact ⟨Iff.rfl, rfl, (), trivial, rfl, h.refused⟩

theorem transparent_sweepAll (hL : L.criteria = true ∨ L.policies = true) {key : EncryptionKey}
    {S : Settings} (tenantIds : List TenantId) :
    Transparent L G (Scheduler.sweepAll key S.providerType S.period tenantIds) w := by
  induction tenantIds generalizing w with
  | nil => exact transparent_pure ()
  | cons A rest ih =>
    refine transparent_bind ?_ fun _ _ _ => ih
    have hconfined : Confined A (fun _ => False) {}
        (Scheduler.sweepTenant key S.providerType S.period A) := confined_sweepTenant _ _ _
    exact transparent_of_confined hL hconfined fun _ _ hno => hno.elim

/-- An update comes for one tenant, whoever it is passed on for. -/
theorem exists_home (hw : w.Sound) (A : TenantId) (token : String) :
    ∃ B, HomeRoutes B (· = token) w.db := by
  by_cases hroute : ∃ route ∈ w.db .webhookRoutes, route.token = token
  · obtain ⟨route, hmem, htoken⟩ := hroute
    refine ⟨route.tenantId, fun other hother hsame => ?_⟩
    have heq : other = route := by
      refine hw.db.eq_of_clash (t := .webhookRoutes) hother hmem ?_
      simp [clash, hsame, htoken]
    rw [heq]
  · refine ⟨A, fun other hother hsame => ?_⟩
    exact (hroute ⟨other, hother, hsame⟩).elim

/-- Whatever an instance is asked for. -/
theorem transparent_task (hL : L.criteria = true ∨ L.policies = true) {key : EncryptionKey}
    {S : Settings} (hw : w.Sound) (task : Task) : Transparent L G (task.program key S) w := by
  have hnone : ∀ {A : TenantId}, HomeRoutes A (fun _ => False) w.db := fun _ _ hno => hno.elim
  cases task with
  | operation A op =>
    refine transparent_bind ?_ fun _ _ _ => transparent_pure _
    by_cases hupdate : ∃ token incoming, op = .update token incoming
    · obtain ⟨token, incoming, rfl⟩ := hupdate
      obtain ⟨B, hroutes⟩ := exists_home hw A token
      have hconfined : Confined B (· = token) {}
          ((Operation.update token incoming).program key S B) :=
        Operation.confined fun _ _ heq => by cases heq; rfl
      exact transparent_of_confined hL hconfined hroutes
    · have hconfined : Confined A (fun _ => False) {} (op.program key S A) :=
        Operation.confined fun token incoming heq => hupdate ⟨token, incoming, heq⟩
      exact transparent_of_confined hL hconfined hnone
  | submission A telegramUserId market rawUid username firstName =>
    refine transparent_bind ?_ fun _ _ _ => transparent_pure _
    have hconfined : Confined A (fun _ => False) {} (submitTx S.ttl S.providerType A
        telegramUserId market rawUid username firstName) :=
      confined_withSession (confined_committed rfl
        (ReferralOnboardingService.confined_submitUid rfl _ _ _ _ _ _ _))
    exact transparent_of_confined hL hconfined hnone
  | sweep =>
    refine transparent_bind ?_ fun _ _ _ => transparent_pure _
    exact transparent_bind transparent_activeTenantIds fun _ _ _ => transparent_sweepAll hL _

end Programs

/-! ## Over whole histories -/

/-- Tasks one after the other, and what each of them came to. -/
inductive Docket (run : App TaskResult → World → Except PyError TaskResult → World → Prop)
    (key : EncryptionKey) (S : Settings) :
    World → List (Task × Except PyError TaskResult) → World → Prop
  | done {w : World} : Docket run key S w [] w
  | next {w w' w'' : World} {task : Task} {r : Except PyError TaskResult}
      {rest : List (Task × Except PyError TaskResult)} :
      run (task.program key S) w r w' → Docket run key S w' rest w'' →
      Docket run key S w ((task, r) :: rest) w''

/-- A run under the layers, on a connection that is bound to no tenant yet. -/
def RunsUnder (L : Layers) (G : World → Op → Choice → Prop) {α : Type} (p : App α) (w : World)
    (r : Except PyError α) (w' : World) : Prop :=
  ∃ conn, Runs (layered L G) p { world := w } r conn ∧ conn.world = w'

section Histories

variable {L : Layers} {G : World → Op → Choice → Prop} {key : EncryptionKey} {S : Settings}
  {w w' : World}

theorem runsUnder_iff (hL : L.criteria = true ∨ L.policies = true) (hw : w.Sound) (task : Task)
    {r : Except PyError TaskResult} :
    RunsUnder L G (task.program key S) w r w' ↔ Runs (serial G) (task.program key S) w r w' := by
  have htransparent : Transparent L G (task.program key S) w := transparent_task hL hw task
  have hstart : ({ world := w } : Connection).Over w := ⟨rfl, rfl⟩
  constructor
  · rintro ⟨conn, hruns, rfl⟩
    exact (htransparent.back hstart hruns).1
  · intro hruns
    obtain ⟨conn, hruns', hconn⟩ := htransparent.forth hstart hruns
    exact ⟨conn, hruns', hconn.world⟩

/-- With the loader criteria alone, with the row policies alone, or with both: the tasks come
    to the same results, and leave the same world, as in the model. -/
theorem either_layer_is_enough (hL : L.criteria = true ∨ L.policies = true) (hw : w.Sound)
    {history : List (Task × Except PyError TaskResult)} :
    Docket (RunsUnder L G) key S w history w' ↔
      Docket (Runs (serial G)) key S w history w' := by
  induction history generalizing w with
  | nil =>
    constructor
    · rintro ⟨⟩
      exact .done
    · rintro ⟨⟩
      exact .done
  | cons entry rest ih =>
    constructor
    · rintro (_ | ⟨hfirst, hrest⟩)
      have hruns := (runsUnder_iff hL hw _).mp hfirst
      exact .next hruns ((ih (wp_sound (wp_sound_world _ _) hruns hw)).mp hrest)
    · rintro (_ | ⟨hruns, hrest⟩)
      have hrest' := (ih (wp_sound (wp_sound_world _ _) hruns hw)).mpr hrest
      exact .next ((runsUnder_iff hL hw _).mpr hruns) hrest'

end Histories

/-! ## An update under the policies alone -/

/-- Queries as they would be without the loader criteria. -/
def policiesOnly : Layers where
  criteria := false
  policies := true

/-- What the user is told and granted. -/
theorem admitted_under_policies :
    ∃ r w', Docket (RunsUnder policiesOnly (Only welcomingEnv)) (.key some) defaultSettings
        hookedWorld [(.operation 1 (.update "hook" (some uidMessage)), r)] w' ∧
      (w'.db .vipMemberships).map (·.status) = [.invited] := by
  have hruns := runs_only welcomingEnv
    ((Task.operation 1 (.update "hook" (some uidMessage))).program (.key some) defaultSettings)
    hookedWorld
  refine ⟨_, _, (either_layer_is_enough (.inr rfl) sound_hookedWorld).mpr (.next hruns .done), ?_⟩
  decide +kernel

end VipChannel
