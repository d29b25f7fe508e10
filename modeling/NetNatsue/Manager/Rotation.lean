import NetNatsue.Foundations.Monitor
import NetNatsue.Foundations.Rota
import NetNatsue.Manager.Discipline

/-! Which server an attempt goes to. The manager keeps a list of servers, perhaps a new one with
each login, and tries them in turn; a server that is forced on it goes before the list. -/
namespace NetNatsue

/-- Where a listed server is. -/
def CBabelServerInfo.address (server : CBabelServerInfo) : Bytes × Int32 :=
  (server.myHost, if server.myPort ≠ 0 then server.myPort else defaultPort)

/-- The servers, and how many attempts have been made with them. -/
structure Directory where
  servers : List CBabelServerInfo
  turn : ℕ
  deriving DecidableEq

/-- The calls that say where to connect to. -/
def Op.redirects : Op → Bool
  | .overrideHost _ _ | .setServerList _ => true
  | _ => false

/-- The members that say where to connect to. -/
def DSNetManager.directions (m : DSNetManager) :=
  (m.ourOverrideHost, m.ourOverridePort, m.myServers, m.myServerRotation)

/-- Events that are no attempt and bring no list. -/
def Event.Undirected (e : Event) : Prop :=
  (∀ toHost toPort, e ≠ .connecting toHost toPort) ∧ ∀ frame, e ≠ .handshake .awaitHandshake frame

theorem Event.Inner.undirected {e : Event} (h : e.Inner) : e.Undirected := by
  refine ⟨fun toHost toPort he => ?_, fun frame he => ?_⟩ <;> subst he <;> exact h

namespace Directory

section
variable (host : Bytes) (port : Int32)

/-- Where the next attempt goes, when the given server is forced, if it has a name. -/
def next (d : Directory) : Bytes × Int32 :=
  if host ≠ [] then (host, if port ≠ 0 then port else defaultPort)
  else if d.servers ≠ [] then (Rota.turn {} d.servers d.turn).address
  else (defaultHost, defaultPort)

/-- An attempt takes a turn if it goes by the list. -/
def took (d : Directory) : Directory :=
  if host = [] ∧ d.servers ≠ [] then { d with turn := d.turn + 1 } else d

def hear (d : Directory) : Event → Directory
  | .connecting _ _ => d.took host
  | .handshake .awaitHandshake frame =>
    if letsIn frame ∧ updatedServers frame (sizeInt frame) ≠ [] then
      { servers := updatedServers frame (sizeInt frame), turn := 0 }
    else d
  | _ => d

/-- The turns are counted by an `int`, so nothing is said of what comes behind 2^31 attempts with
one list. -/
def permits (d : Directory) : Event → Prop
  | .connecting toHost toPort => d.turn < 2147483648 → (toHost, toPort) = d.next host port
  | _ => True

structure Fits (d : Directory) (m : DSNetManager) : Prop where
  host : m.ourOverrideHost = host
  port : m.ourOverridePort = port
  servers : m.myServers = d.servers
  rotation : m.myServerRotation = Int32.ofNat d.turn

end

section
variable {host : Bytes} {port : Int32} {d : Directory}

theorem Fits.of_eq {m n : DSNetManager} (h : d.Fits host port m)
    (hsame : n.directions = m.directions) :
    d.Fits host port n := by
  simp only [DSNetManager.directions, Prod.mk.injEq] at hsame
  obtain ⟨hhost, hport, hservers, hrotation⟩ := hsame
  exact ⟨hhost.trans h.host, hport.trans h.port, hservers.trans h.servers,
    hrotation.trans h.rotation⟩

theorem undirected_idle {e : Event} (h : e.Undirected) :
    d.permits host port e ∧ d.hear host e = d := by
  cases e with
  | connecting toHost toPort => exact absurd rfl (h.1 toHost toPort)
  | handshake phase frame =>
    cases phase with
    | awaitHandshake => exact absurd rfl (h.2 frame)
    | _ => exact ⟨trivial, rfl⟩
  | _ => exact ⟨trivial, rfl⟩

end
end Directory

def directory (host : Bytes) (port : Int32) : Monitor Directory Event :=
  { step := Directory.hear host, allows := Directory.permits host port }

namespace DSNetManager

section
variable {host : Bytes} {port : Int32}

theorem chooseServer_next (m : DSNetManager) (d : Directory) (h : d.Fits host port m) :
    (d.turn < 2147483648 →
      (m.chooseServer.myConnectedHost, m.chooseServer.myConnectedPort) = d.next host port) ∧
    (d.took host).Fits host port m.chooseServer := by
  obtain ⟨servers, turn⟩ := d
  obtain ⟨rfl, rfl, hservers, hrotation⟩ := h
  change m.myServers = servers at hservers
  subst hservers
  unfold chooseServer Directory.next Directory.took
  by_cases hforced : m.ourOverrideHost ≠ []
  · rw [if_pos hforced, if_pos hforced, if_neg fun h : _ ∧ _ => hforced h.1]
    exact ⟨fun _ => rfl, rfl, rfl, rfl, hrotation⟩
  · rw [if_neg hforced, if_neg hforced]
    by_cases hlisted : m.myServers ≠ []
    · rw [if_pos hlisted, if_pos hlisted]
      rw [if_pos ⟨not_not.mp hforced, hlisted⟩]
      refine ⟨fun hfew => ?_, rfl, rfl, rfl, ?_⟩
      · have hturn : (m.myServerRotation.toInt % 2^64).toNat = turn := by
          have hsmall : turn < 2147483648 := hfew
          rw [hrotation, Word32.toInt_ofNat_exact turn hsmall]
          omega
        rw [hturn]
        rfl
      · change m.myServerRotation + 1 = Int32.ofNat (turn + 1)
        rw [hrotation]
        exact (Int32.ofNat_add turn 1).symm
    · rw [if_neg hlisted, if_neg hlisted]
      rw [if_neg fun h : _ ∧ _ => hlisted h.2]
      exact ⟨fun _ => rfl, rfl, rfl, rfl, hrotation⟩

/-- From one state to the other, attempts go where they should. -/
abbrev Rotates (host : Bytes) (port : Int32) (m n : DSNetManager) : Prop :=
  (directory host port).Advances trace (Directory.Fits host port) m n

variable {m n : DSNetManager}

/-- Most of what happens has nothing to do with it. -/
theorem rotates_idle (events : List Event) (htrace : n.trace = m.trace ++ events)
    (hevents : ∀ e ∈ events, e.Undirected) (hsame : n.directions = m.directions) :
    Rotates host port m n :=
  Monitor.advances_idle events htrace (fun _ e he => Directory.undirected_idle (hevents e he))
    fun _ hd => hd.of_eq hsame

theorem rotates_still (htrace : n.trace = m.trace) (hsame : n.directions = m.directions) :
    Rotates host port m n :=
  rotates_idle [] (by rw [htrace, List.append_nil]) (by simp) hsame

theorem rotates_emit (m : DSNetManager) (e : Event) (h : e.Undirected) :
    Rotates host port m (m.emit e) :=
  rotates_idle [e] rfl (by simpa using h) rfl

theorem Spares.rotates (h : Spares m n) : Rotates host port m n := by
  obtain ⟨events, htrace, hevents⟩ := h.trace
  refine rotates_idle events htrace (fun e he => ?_) ?_
  · have hwake := hevents e he
    cases e <;> first | exact hwake.elim | simp [Event.Undirected]
  · exact congrArg (fun a : Affairs => (a.overrideHost, a.overridePort, a.servers,
      a.rotation)) h.affairs

/-- A login that is accepted may bring a new list. -/
theorem rotates_admitted (m : DSNetManager) (frame : Bytes) (h : m.myConnectPhase = .awaitHandshake)
    (hcode : letsIn frame = true) (server user : BabelUIN) :
    Rotates host port m ((m.emit (.handshake m.myConnectPhase frame)).admitted server user
      (updatedServers frame (sizeInt frame))) := by
  rw [h]
  refine Monitor.advances_event (.handshake .awaitHandshake frame) rfl fun d hd => ⟨trivial, ?_⟩
  by_cases hnone : updatedServers frame (sizeInt frame) = []
  · have hheard : d.hear host (.handshake .awaitHandshake frame) = d := by
      refine if_neg ?_
      rw [not_and_or, not_not]
      exact Or.inr hnone
    change Directory.Fits host port (d.hear host (.handshake .awaitHandshake frame)) _
    rw [hheard]
    refine hd.of_eq ?_
    simp only [directions, admitted, hnone, ↓reduceIte]
    rfl
  · have hheard : d.hear host (.handshake .awaitHandshake frame) =
        { servers := updatedServers frame (sizeInt frame), turn := 0 } := if_pos ⟨hcode, hnone⟩
    change Directory.Fits host port (d.hear host (.handshake .awaitHandshake frame)) _
    rw [hheard]
    refine ⟨hd.host, hd.port, ?_, ?_⟩
    · exact if_neg hnone
    · exact (if_neg hnone).trans rfl

theorem Shown.undirected {frame : Bytes} {e : Event} (h : Shown m frame e) : e.Undirected := by
  cases h with
  | response => simp [Event.Undirected]
  | stray hphase => exact ⟨by simp, fun other he => hphase (Event.handshake.inj he).1⟩
  | packet => simp [Event.Undirected]

theorem Met.rotates {frame : Bytes} (h : Met m frame n) : Rotates host port m n := by
  cases h.aftermath with
  | spared _ e hshown hspares => exact (rotates_emit m e hshown.undirected).trans hspares.rotates
  | spooled =>
    have hpacket : Rotates host port m
        (m.emit (.packet m.myConnectPhase (PacketHeader.read frame) frame)) :=
      rotates_emit m _ (by simp [Event.Undirected])
    exact hpacket.trans (rotates_idle [.spooled _ _ _] rfl (by simp [Event.Undirected]) rfl)
  | refused _ hphase hcode hspares =>
    rw [hphase] at hspares
    refine Monitor.Advances.trans ?_ hspares.rotates
    refine Monitor.advances_event (.handshake .awaitHandshake frame) rfl fun d hd => ⟨trivial, ?_⟩
    have hheard : d.hear host (.handshake .awaitHandshake frame) = d := by
      refine if_neg ?_
      rw [not_and_or, letsIn_iff]
      exact Or.inl (not_not_intro hcode)
    change Directory.Fits host port (d.hear host (.handshake .awaitHandshake frame)) _
    rw [hheard]
    exact hd.of_eq rfl
  | accepted k server user hphase hcode hspares =>
    have hadmitted : Rotates host port m _ :=
      rotates_admitted m frame hphase ((letsIn_iff frame).mpr hcode) server user
    exact (hadmitted.trans hspares.rotates).trans (rotates_still rfl rfl)

theorem Heeded.rotates (h : Heeded m n) : Rotates host port m n := by
  cases h with
  | clock => exact rotates_still rfl rfl
  | socket s => exact rotates_still rfl rfl
  | heard k totalSize _ _ hmet => exact hmet.rotates.trans (rotates_still rfl rfl)
  | dropped _ frame _ hmet => exact hmet.rotates
  | lost => exact (spares_connectionLost m).rotates
  | fail rawError => exact rotates_still rfl rfl
  | handshake => exact (spares_sendHandshake m).rotates

theorem rotates_attemptFor (m : DSNetManager) (users : List Bytes) :
    Rotates host port m (m.attemptFor users) := by
  have hbegin : ∀ k : DSNetManager, Rotates host port k
      (if ¬ k.beginConnect.1 then
        k.beginConnect.2.failWith (-k.beginConnect.2.mySocket.myLastSystemError)
        else (k.beginConnect.2.enter .connecting).setDeadline) := by
    intro k
    split_ifs <;> exact rotates_still rfl rfl
  have hchoice : Rotates host port m (({ m with myUsersForWWR := users }.chooseServer).emit
      (.connecting { m with myUsersForWWR := users }.chooseServer.myConnectedHost
        { m with myUsersForWWR := users }.chooseServer.myConnectedPort)) := by
    have htrace : ({ m with myUsersForWWR := users } : DSNetManager).chooseServer.trace = m.trace :=
      (quiet_chooseServer _).trace
    refine Monitor.advances_event _ (congrArg (· ++ [_]) htrace) fun d hd => ?_
    obtain ⟨hnext, hfits⟩ := chooseServer_next { m with myUsersForWWR := users } d (hd.of_eq rfl)
    exact ⟨hnext, hfits.of_eq rfl⟩
  exact hchoice.trans (hbegin _)

theorem Deed.rotates {op : Op} (h : Deed op m n) (hop : op.redirects = false) :
    Rotates host port m n := by
  cases h with
  | books _ _ _ hbooks =>
    obtain ⟨events, htrace, hevents⟩ := hbooks.trace
    refine rotates_idle events htrace (fun e he => (hevents e he).undirected) ?_
    exact congrArg (fun w => (w.overrideHost, w.overridePort, w.servers, w.rotation)) hbooks.world
  | heeded _ _ _ hheeded => exact hheeded.rotates
  | say _ _ packet => exact (spares_socketWrite m packet).rotates
  | attempt _ users => exact rotates_attemptFor m users
  | hangUp => exact rotates_idle [.ended] rfl (by simp [Event.Undirected]) rfl
  | configure _ _ hconfigures =>
    cases op <;> simp only [Op.configures, Op.redirects, Bool.false_eq_true, Bool.true_eq_false]
      at hconfigures hop <;>
      exact rotates_still rfl rfl
  | unqueue | handOut | list | setAside | discard => exact rotates_still rfl rfl

end

end DSNetManager

open DSNetManager

/-- **Servers have their turns.** In every run of calls that do not redirect the client, each
attempt goes to the server that is forced, to the next one of the list in use, which is the list of
the last login that brought one, or to the default server when there is no list. -/
theorem servers_in_turn (m : DSNetManager) (ops : List Op) (hops : ∀ op ∈ ops, op.redirects = false)
    (hrotation : 0 ≤ m.myServerRotation.toInt) :
    ∃ events, (runOps ops m).2.trace = m.trace ++ events ∧
      (directory m.ourOverrideHost m.ourOverridePort).Obeys
        { servers := m.myServers, turn := m.myServerRotation.toInt.toNat } events := by
  have hstart : Directory.Fits m.ourOverrideHost m.ourOverridePort
      { servers := m.myServers, turn := m.myServerRotation.toInt.toNat } m := by
    refine ⟨rfl, rfl, rfl, ?_⟩
    rw [← Int32.ofInt_eq_ofNat, Int.toNat_of_nonneg hrotation, Int32.ofInt_toInt]
  have hrotates : Rotates m.ourOverrideHost m.ourOverridePort m (runOps ops m).2 :=
    runOps_keeps ops _ m (Monitor.advances_refl m) fun op hop _ _ hdeed hm => hm.trans
      (hdeed.rotates (hops op hop))
  obtain ⟨events, htrace, hobeys, _⟩ := hrotates _ hstart
  exact ⟨events, htrace, hobeys⟩

/-- A client that knows two servers and can find neither. -/
def lostClient : DSNetManager :=
  (construct { SocketOS.idle with connects := .const (.unresolved 1) } (.const 0)
    .blank).setServerList
    [{ myHost := ascii "a" }, { myHost := ascii "b", myPort := 7 }]

theorem servers_in_turn_lost :
    ∃ events, (runOps [.connectInBackground [], .connectInBackground []] lostClient).2.trace =
        lostClient.trace ++ events ∧
      (directory [] 0).Obeys { servers := lostClient.myServers, turn := 0 } events :=
  servers_in_turn lostClient _ (by decide) (by decide)

/-- Where the attempts among some events went. -/
def dialled (events : List Event) : List (Bytes × Int32) :=
  events.filterMap fun
    | .connecting host port => some (host, port)
    | _ => none

/-- As long as no login brings a list, the attempts go through the one there is. -/
theorem dialled_obeyed (port : Int32) (events : List Event) (d : Directory)
    (hlisted : d.servers ≠ []) (h : (directory [] port).Obeys d events)
    (hsame : ∀ phase frame, .handshake phase frame ∈ events →
      updatedServers frame (sizeInt frame) = [])
    (hfew : d.turn + (dialled events).length ≤ 2147483648) :
    dialled events =
      (Rota.turns {} d.servers d.turn (dialled events).length).map CBabelServerInfo.address := by
  induction events generalizing d with
  | nil => rfl
  | cons e events ih =>
    obtain ⟨hallowed, hlater⟩ := h
    have hrest : ∀ phase frame, .handshake phase frame ∈ events → updatedServers frame
        (sizeInt frame) = [] :=
      fun phase frame hmem => hsame phase frame (List.mem_cons_of_mem _ hmem)
    have hother : (∀ toHost toPort, e ≠ .connecting toHost toPort) → dialled (e :: events) =
        (Rota.turns {} d.servers d.turn (dialled (e :: events)).length).map
          CBabelServerInfo.address := by
      intro hplain
      have hdialled : dialled (e :: events) = dialled events := by
        cases e with
        | connecting toHost toPort => exact absurd rfl (hplain toHost toPort)
        | _ => rfl
      have hheard : d.hear [] e = d := by
        by_cases hlogin : ∃ frame, e = .handshake .awaitHandshake frame
        · obtain ⟨frame, rfl⟩ := hlogin
          refine if_neg ?_
          rw [not_and_or, not_not]
          exact Or.inr (hsame _ frame List.mem_cons_self)
        · have hidle : d.permits [] port e ∧ d.hear [] e = d :=
            Directory.undirected_idle ⟨hplain, fun frame he => hlogin ⟨frame, he⟩⟩
          exact hidle.2
      change (directory [] port).Obeys (d.hear [] e) events at hlater
      rw [hheard] at hlater
      rw [hdialled] at hfew ⊢
      exact ih d hlisted hlater hrest hfew
    cases e with
    | connecting toHost toPort =>
      have hcount : dialled (.connecting toHost toPort :: events) = (toHost, toPort) ::
        dialled events := rfl
      rw [hcount, List.length_cons] at hfew ⊢
      have htook : d.hear [] (.connecting toHost toPort) = { d with turn := d.turn + 1 } :=
        if_pos ⟨rfl, hlisted⟩
      change (directory [] port).Obeys (d.hear [] (.connecting toHost toPort)) events at hlater
      rw [htook] at hlater
      have hgoes : (toHost, toPort) = d.next [] port := hallowed (by omega)
      have hnext : d.next [] port = (Rota.turn {} d.servers d.turn).address := by
        rw [Directory.next, if_neg (not_not_intro rfl), if_pos hlisted]
      have hafter := ih { d with turn := d.turn + 1 } hlisted hlater hrest (by simp only; omega)
      rw [Rota.turns_succ, List.map_cons, ← hnext, ← hgoes]
      exact congrArg _ hafter
    | _ => exact hother (by simp)

/-- **A round of attempts tries every server once**, wherever in the list it begins. -/
theorem every_server_tried (m : DSNetManager) (ops : List Op) (events : List Event)
    (hops : ∀ op ∈ ops, op.redirects = false) (hforced : m.ourOverrideHost = [])
    (hrotation : 0 ≤ m.myServerRotation.toInt)
    (hfew : m.myServerRotation.toInt + m.myServers.length ≤ 2147483648)
    (htrace : (runOps ops m).2.trace = m.trace ++ events)
    (hsame : ∀ phase frame, .handshake phase frame ∈ events →
      updatedServers frame (sizeInt frame) = [])
    (hround : (dialled events).length = m.myServers.length) :
    (dialled events).Perm (m.myServers.map CBabelServerInfo.address) := by
  obtain ⟨more, hmore, hobeys⟩ := servers_in_turn m ops hops hrotation
  obtain rfl : events = more := List.append_cancel_left (htrace.symm.trans hmore)
  by_cases hlisted : m.myServers = []
  · rw [hlisted, List.length_nil] at hround
    rw [hlisted, List.eq_nil_of_length_eq_zero hround]
    exact List.Perm.nil
  · rw [hforced] at hobeys
    rw [dialled_obeyed _ events _ hlisted hobeys hsame (by simp only; omega), hround]
    exact (Rota.turns_perm {} m.myServers _).map _

theorem every_server_tried_lost :
    [(ascii "a", defaultPort), (ascii "b", 7)].Perm
    (lostClient.myServers.map CBabelServerInfo.address) :=
  every_server_tried lostClient [.connectInBackground [], .connectInBackground []]
    [.connecting (ascii "a") defaultPort, .polled .idle false false, .connecting (ascii "b") 7,
      .polled .failed false false]
    (by decide) rfl (by decide) (by decide) (by decide +kernel) (by simp) rfl

end NetNatsue
