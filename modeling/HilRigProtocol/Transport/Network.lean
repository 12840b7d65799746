/-
  A host and a rig, joined by two channels.

  A channel carries what one side shows for transmission to the other, in order. It may lose
  or garble any of it: of the valid frames that arrive nothing is asked but that they are
  frames on the way, in their order. The calls on the two sides come in any order.
-/
import HilRigProtocol.Transport.Flight

namespace HilRigProtocol.Transport

/-! ## The network -/

inductive Side
  | host
  | rig
  deriving DecidableEq, Repr

/-- A call on one side. By its end the first `leaving` frames on the way to that side have
    arrived or are lost. -/
structure Action where
  side : Side
  call : Call
  leaving : Nat

/-- Both roots, and the frames on the way to them. -/
structure Network where
  host : Root
  rig : Root
  toHost : List Frame
  toRig : List Frame

namespace Network

def start (host rig : Root) : Network where
  host := host
  rig := rig
  toHost := []
  toRig := []

def inbound (network : Network) : Side → List Frame
  | .host => network.toHost
  | .rig => network.toRig

section
variable (hostTarget rigTarget : Target)

/-- One call. What it shows is on the way to the other side. -/
def step (network : Network) (action : Action) : Response × Network :=
  match action.side with
  | .host =>
      let (response, host) := @Transport.step hostTarget network.host action.call
      (response,
        { host := host
          rig := network.rig
          toHost := network.toHost.drop action.leaving
          toRig := network.toRig ++ @sent hostTarget (network.host, action.call) })
  | .rig =>
      let (response, rig) := @Transport.step rigTarget network.rig action.call
      (response,
        { host := network.host
          rig := rig
          toHost := network.toHost ++ @sent rigTarget (network.rig, action.call)
          toRig := network.toRig.drop action.leaving })

/-- The valid frames that arrive with a call. -/
def arriving (network : Network) (action : Action) : List Frame :=
  match action.side with
  | .host =>
      (moments (@Transport.step hostTarget) network.host [action.call]).flatMap
        (@arrivals hostTarget)
  | .rig =>
      (moments (@Transport.step rigTarget) network.rig [action.call]).flatMap
        (@arrivals rigTarget)

/-- The valid frames that arrive are among those that leave the channel, in their order. -/
def Carries (network : Network) (action : Action) : Prop :=
  List.Sublist (network.arriving hostTarget rigTarget action)
    ((network.inbound action.side).take action.leaving)

instance (network : Network) (action : Action) :
    Decidable (network.Carries hostTarget rigTarget action) :=
  inferInstanceAs (Decidable (List.Sublist _ _))

/-- The channels carry all of a run. -/
def Carried (network : Network) (actions : List Action) : Prop :=
  ∀ visit ∈ Library.visits (step hostTarget rigTarget) network actions,
    visit.1.Carries hostTarget rigTarget visit.2

end

end Network

/-- The calls of a run on one side. -/
def callsOf (side : Side) (actions : List Action) : List Call :=
  (actions.filter fun action => action.side == side).map Action.call

theorem callsOf_cons_same (side : Side) (call : Call) (leaving : Nat) (rest : List Action) :
    callsOf side (⟨side, call, leaving⟩ :: rest) = call :: callsOf side rest := by
  unfold callsOf
  rw [List.filter_cons_of_pos (by simp), List.map_cons]

theorem callsOf_cons_other {side other : Side} (h : other ≠ side) (call : Call) (leaving : Nat)
    (rest : List Action) : callsOf side (⟨other, call, leaving⟩ :: rest) = callsOf side rest := by
  unfold callsOf
  rw [List.filter_cons_of_neg (by simp [h])]

/-! ## One side -/

/-- One side so far: its moments, what it has become, and the frames on the way to it. -/
structure Party where
  past : List (Root × Call)
  endpoint : Endpoint
  inbound : List Frame

section
variable [Target]

namespace Party

/-- What can become of a side, with the frames that it sends: frames on the way to it are
    lost, or it has a moment, whose arrivals are the first on the way. -/
inductive Moves (s : Setup) (party : Party) : List Frame → Party → Prop
  | lose {inbound : List Frame} : List.Sublist inbound party.inbound →
      Moves s party [] { party with inbound := inbound }
  | moment {call : Call} {rest : List Frame} : party.endpoint.Wf s →
      Endpoint.Successive s party.endpoint → Endpoint.Atomic s party.endpoint call →
      party.inbound = arrivals (party.endpoint.toRoot s, call) ++ rest →
      Moves s party (sent (party.endpoint.toRoot s, call))
        { past := party.past ++ [(party.endpoint.toRoot s, call)]
          endpoint := (party.endpoint.step s call).2
          inbound := rest }

variable {s : Setup} {Inv : Party → List Frame → Prop}

/-- What a move keeps is kept by a run of atomic calls; `kept` stays on the way. -/
theorem atoms_keep
    (hmoves : ∀ party outbound frames party', Moves s party frames party' →
      Inv party outbound → Inv party' (outbound ++ frames))
    {calls : List Call} {party : Party} {outbound leaving kept : List Frame}
    (hwf : party.endpoint.Wf s) (hcursor : Endpoint.Successive s party.endpoint)
    (hatomic : Endpoint.AtomicRun s party.endpoint calls)
    (hinbound : party.inbound = leaving ++ kept)
    (harrive : List.Sublist ((Library.visits (Endpoint.step s) party.endpoint calls).flatMap
      fun visit => arrivals (visit.1.toRoot s, visit.2)) leaving)
    (hinv : Inv party outbound) :
    Inv
      { past := party.past ++ (Library.visits (Endpoint.step s) party.endpoint calls).map
          fun visit => (visit.1.toRoot s, visit.2)
        endpoint := (Library.run (Endpoint.step s) party.endpoint calls).2
        inbound := kept }
      (outbound ++ (Library.visits (Endpoint.step s) party.endpoint calls).flatMap
        fun visit => sent (visit.1.toRoot s, visit.2)) := by
  induction calls generalizing party outbound leaving with
  | nil =>
      rw [Library.visits, List.map_nil, List.append_nil, List.flatMap_nil]
      refine hmoves party outbound [] _ (.lose ?_) hinv
      rw [hinbound]
      exact List.sublist_append_right _ _
  | cons call rest ih =>
      obtain ⟨hfirst, hrest⟩ := Endpoint.atomicRun_cons.mp hatomic
      rw [Library.visits, List.flatMap_cons, List.append_sublist_iff] at harrive
      obtain ⟨early, late, rfl, hearly, hlate⟩ := harrive
      -- What is lost before the frame of this moment leaves the channel first.
      let inbound := arrivals (party.endpoint.toRoot s, call) ++ (late ++ kept)
      have hlost : Inv { party with inbound := inbound } outbound := by
        rw [← List.append_nil outbound]
        refine hmoves party outbound [] _ (.lose ?_) hinv
        rw [hinbound, List.append_assoc]
        exact hearly.append (List.Sublist.refl _)
      have hnext := hmoves { party with inbound := inbound } outbound _ _
        (.moment hwf hcursor hfirst rfl) hlost
      have hlast := ih (Endpoint.wf_step hwf call)
        (Endpoint.successive_step hwf hcursor hfirst) hrest rfl hlate hnext
      rw [Library.visits, List.map_cons, List.flatMap_cons, Library.run_cons]
      dsimp only at hlast ⊢
      rw [List.append_assoc, List.append_assoc] at hlast
      exact hlast

/-- A public call shows what its moments show. -/
theorem sent_moments (root : Root) (call : Call) :
    (moments step root [call]).flatMap sent = sent (root, call) := by
  have hnone : (∀ outBuffer, call ≠ .peekOutput outBuffer) →
      (moments step root [call]).flatMap sent = [] := by
    intro hcall
    rw [List.flatMap_eq_nil_iff]
    rintro ⟨root', other⟩ hmoment
    rcases mem_atomize (Library.mem_visits hmoment) with hmem | ⟨data, rfl⟩ | ⟨_, _, rfl⟩
    · rw [List.mem_singleton] at hmem
      dsimp only at hmem
      subst hmem
      cases other with
      | peekOutput outBuffer => exact absurd rfl (hcall outBuffer)
      | _ => rfl
    · rfl
    · rfl
  cases call with
  | peekOutput outBuffer => exact List.append_nil _
  | _ => exact hnone (by simp)

/-- What a move keeps is kept by a call whose arrivals the channel carries. -/
theorem call_keeps
    (hmoves : ∀ party outbound frames party', Moves s party frames party' →
      Inv party outbound → Inv party' (outbound ++ frames))
    {party : Party} {outbound : List Frame} {call : Call} {leaving : Nat}
    (hwf : party.endpoint.Wf s) (hcursor : Endpoint.Successive s party.endpoint)
    (harrive : List.Sublist
      ((moments step (party.endpoint.toRoot s) [call]).flatMap arrivals)
      (party.inbound.take leaving))
    (hinv : Inv party outbound) :
    Inv
      { past := party.past ++ moments step (party.endpoint.toRoot s) [call]
        endpoint := (party.endpoint.step s call).2
        inbound := party.inbound.drop leaving }
      (outbound ++ sent (party.endpoint.toRoot s, call)) := by
  obtain ⟨hatomic, hlast⟩ := Endpoint.atomize_atomic [call] hwf
  rw [← sent_moments]
  rw [moments_toRoot [call] hwf, List.flatMap_map] at harrive ⊢
  have hkept := atoms_keep hmoves hwf hcursor hatomic
    (List.take_append_drop leaving party.inbound).symm harrive hinv
  rw [hlast] at hkept
  exact hkept

/-- The moments of a run are those of its first call and those of the rest. -/
theorem moments_cons {e : Endpoint} (h : e.Wf s) (call : Call) (rest : List Call) :
    moments step (e.toRoot s) (call :: rest) =
      moments step (e.toRoot s) [call] ++ moments step ((e.step s call).2.toRoot s) rest := by
  have hone : atomize (Endpoint.step s) e [call] = atoms (Endpoint.step s) e call :=
    List.append_nil _
  obtain ⟨-, hlast⟩ := Endpoint.atoms_atomic h call
  rw [moments_toRoot _ h, moments_toRoot _ h, moments_toRoot _ (Endpoint.wf_step h call),
    ← List.map_append]
  unfold moments
  rw [hone, atomize, Library.visits_append, hlast]

/-- A side is well formed, and its cursor is behind the identity of its session. -/
structure Valid (s : Setup) (party : Party) : Prop where
  wf : party.endpoint.Wf s
  cursor : Endpoint.Successive s party.endpoint

theorem valid_call {party : Party} (h : Valid s party) (call : Call) (past : List (Root × Call))
    (inbound : List Frame) :
    Valid s ⟨past, (party.endpoint.step s call).2, inbound⟩ where
  wf := Endpoint.wf_step h.wf call
  cursor := (@Endpoint.atomic_invariant _ s (Endpoint.Successive s) _ h.wf h.cursor [call]
    fun _ _ hwf hinv hatomic => Endpoint.successive_step hwf hinv hatomic).2.2

end Party

end

/-! ## Both sides -/

/-- The target of a side, and what `Init` fixed on it. -/
structure Build where
  target : Target
  setup : @Setup target

namespace Build

variable (build : Build)

def root (e : Endpoint) : Root := @Endpoint.toRoot build.target build.setup e

def history (e : Endpoint) (calls : List Call) : List (Root × Call) :=
  moments (@step build.target) (build.root e) calls

def sent (e : Endpoint) (call : Call) : List Frame :=
  @Transport.sent build.target (build.root e, call)

def Valid (party : Party) : Prop := @Party.Valid build.target build.setup party

def Moves (party : Party) (frames : List Frame) (party' : Party) : Prop :=
  @Party.Moves build.target build.setup party frames party'

def role : Role := @Setup.role build.target build.setup

def first : UInt16 := @Setup.firstSequence build.target build.setup

/-- A side after a call that leaves `inbound` on the way to it. -/
def after (party : Party) (call : Call) (inbound : List Frame) : Party where
  past := party.past ++ build.history party.endpoint [call]
  endpoint := (@Endpoint.step build.target build.setup party.endpoint call).2
  inbound := inbound

variable {build} {party : Party}

theorem valid_after (h : build.Valid party) (call : Call) (inbound : List Frame) :
    build.Valid (build.after party call inbound) :=
  @Party.valid_call build.target build.setup party h call _ _

theorem valid_inbound (h : build.Valid party) (inbound : List Frame) :
    build.Valid { party with inbound := inbound } :=
  @Party.Valid.mk build.target build.setup { party with inbound := inbound }
    (@Party.Valid.wf build.target build.setup party h)
    (@Party.Valid.cursor build.target build.setup party h)

theorem step_root (h : build.Valid party) (call : Call) (inbound : List Frame) :
    (@Transport.step build.target (build.root party.endpoint) call).2 =
      build.root (build.after party call inbound).endpoint := by
  have hwf := @Party.Valid.wf build.target build.setup party h
  unfold root after
  rw [@step_refines build.target build.setup _ hwf]

theorem history_cons (h : build.Valid party) (call : Call) (inbound : List Frame)
    (rest : List Call) :
    build.history party.endpoint (call :: rest) =
      build.history party.endpoint [call] ++
        build.history (build.after party call inbound).endpoint rest :=
  @Party.moments_cons build.target build.setup party.endpoint
    (@Party.Valid.wf build.target build.setup party h) call rest

theorem call_keeps {Inv : Party → List Frame → Prop}
    (hmoves : ∀ party outbound frames party', build.Moves party frames party' →
      Inv party outbound → Inv party' (outbound ++ frames))
    {outbound : List Frame} {call : Call} {leaving : Nat} (h : build.Valid party)
    (harrive : List.Sublist
      ((build.history party.endpoint [call]).flatMap (@arrivals build.target))
      (party.inbound.take leaving))
    (hinv : Inv party outbound) :
    Inv (build.after party call (party.inbound.drop leaving))
      (outbound ++ build.sent party.endpoint call) :=
  @Party.call_keeps build.target build.setup Inv hmoves party outbound call leaving
    (@Party.Valid.wf build.target build.setup party h)
    (@Party.Valid.cursor build.target build.setup party h) harrive hinv

end Build

section
variable {hostBuild rigBuild : Build}

variable (hostBuild rigBuild) in
/-- What the moves of both sides keep. -/
structure Kept (Inv : Party → Party → Prop) : Prop where
  host : ∀ host rig frames host', hostBuild.Moves host frames host' →
    Inv host rig → Inv host' { rig with inbound := rig.inbound ++ frames }
  rig : ∀ host rig frames rig', rigBuild.Moves rig frames rig' →
    Inv host rig → Inv { host with inbound := host.inbound ++ frames } rig'

variable (hostBuild rigBuild) in
/-- The network of two sides. -/
def Network.ofParties (host rig : Party) : Network where
  host := hostBuild.root host.endpoint
  rig := rigBuild.root rig.endpoint
  toHost := host.inbound
  toRig := rig.inbound

theorem Network.step_host {host : Party} (h : hostBuild.Valid host) (rig : Party) (call : Call)
    (leaving : Nat) :
    (Network.step hostBuild.target rigBuild.target
        (Network.ofParties hostBuild rigBuild host rig) ⟨.host, call, leaving⟩).2 =
      Network.ofParties hostBuild rigBuild
        (hostBuild.after host call (host.inbound.drop leaving))
        { rig with inbound := rig.inbound ++ hostBuild.sent host.endpoint call } := by
  unfold Network.step Network.ofParties
  dsimp only
  rw [Build.step_root h call (host.inbound.drop leaving)]
  rfl

theorem Network.step_rig {rig : Party} (h : rigBuild.Valid rig) (host : Party) (call : Call)
    (leaving : Nat) :
    (Network.step hostBuild.target rigBuild.target
        (Network.ofParties hostBuild rigBuild host rig) ⟨.rig, call, leaving⟩).2 =
      Network.ofParties hostBuild rigBuild
        { host with inbound := host.inbound ++ rigBuild.sent rig.endpoint call }
        (rigBuild.after rig call (rig.inbound.drop leaving)) := by
  unfold Network.step Network.ofParties
  dsimp only
  rw [Build.step_root h call (rig.inbound.drop leaving)]
  rfl

/-- What the moves of both sides keep, a run of the network keeps. -/
theorem Kept.run {Inv : Party → Party → Prop} (h : Kept hostBuild rigBuild Inv)
    {actions : List Action} {host rig : Party} (hhost : hostBuild.Valid host)
    (hrig : rigBuild.Valid rig) (hinv : Inv host rig)
    (hcarried : (Network.ofParties hostBuild rigBuild host rig).Carried hostBuild.target
      rigBuild.target actions) :
    ∃ host' rig' : Party, Inv host' rig' ∧ hostBuild.Valid host' ∧ rigBuild.Valid rig' ∧
      host'.past = host.past ++ hostBuild.history host.endpoint (callsOf .host actions) ∧
      rig'.past = rig.past ++ rigBuild.history rig.endpoint (callsOf .rig actions) ∧
      (Library.run (Network.step hostBuild.target rigBuild.target)
        (Network.ofParties hostBuild rigBuild host rig) actions).2 =
          Network.ofParties hostBuild rigBuild host' rig' := by
  induction actions generalizing host rig with
  | nil =>
      exact ⟨host, rig, hinv, hhost, hrig, (List.append_nil _).symm, (List.append_nil _).symm, rfl⟩
  | cons action rest ih =>
      obtain ⟨side, call, leaving⟩ := action
      unfold Network.Carried at hcarried
      rw [Library.visits, List.forall_mem_cons] at hcarried
      obtain ⟨hfirst, hrest⟩ := hcarried
      cases side with
      | host =>
          have hnext := @Build.call_keeps hostBuild host
            (fun party outbound => Inv party { rig with inbound := outbound })
            (fun party outbound => h.host party { rig with inbound := outbound })
            rig.inbound call leaving hhost hfirst hinv
          rw [Network.step_host hhost] at hrest
          obtain ⟨host', rig', hinv', hhost', hrig', hpast, rpast, hlast⟩ :=
            ih (Build.valid_after hhost call _) (Build.valid_inbound hrig _) hnext hrest
          refine ⟨host', rig', hinv', hhost', hrig', ?_, ?_, ?_⟩
          · rw [hpast, callsOf_cons_same, Build.history_cons hhost call
              (host.inbound.drop leaving)]
            exact List.append_assoc _ _ _
          · rw [rpast, callsOf_cons_other (by decide)]
          · rw [Library.run_cons, Network.step_host hhost]
            exact hlast
      | rig =>
          have hnext := @Build.call_keeps rigBuild rig
            (fun party outbound => Inv { host with inbound := outbound } party)
            (fun party outbound => h.rig { host with inbound := outbound } party)
            host.inbound call leaving hrig hfirst hinv
          rw [Network.step_rig hrig] at hrest
          obtain ⟨host', rig', hinv', hhost', hrig', hpast, rpast, hlast⟩ :=
            ih (Build.valid_inbound hhost _) (Build.valid_after hrig call _) hnext hrest
          refine ⟨host', rig', hinv', hhost', hrig', ?_, ?_, ?_⟩
          · rw [hpast, callsOf_cons_other (by decide)]
          · rw [rpast, callsOf_cons_same, Build.history_cons hrig call
              (rig.inbound.drop leaving)]
            exact List.append_assoc _ _ _
          · rw [Library.run_cons, Network.step_rig hrig]
            exact hlast

end

end HilRigProtocol.Transport
