import HiPerConTracer.Net.Address

/-!
# UDP echo servers (`udp-echo-server.cc`)

Each instance of a server sends a datagram back to its source, unless the source port is below 1024
or the own port.  A network has the instances of two servers; anybody can send datagrams with any
source.  No instance answers what another one has sent exactly if there are no two instances that
answer to the ports of each other:

    LoopFree (network s t) ↔ NoEchoPair (network s t)                        (loopFree_iff)
    ¬ NoEchoPair net → one datagram causes any number of others              (loop_unbounded)
-/

namespace HiPerConTracer.Echo
open Net

structure Endpoint where
  address : Address
  port : UInt16
deriving DecidableEq, Repr

/-- `UDPEchoInstance`. -/
structure Instance where
  /-- The port of `LocalEndpoint`, as configured. -/
  localPort : UInt16
  /-- The port to which the socket is bound: another one if the configured port is zero. -/
  boundPort : UInt16
  /-- The local address, or all addresses of the host if it is unspecified. -/
  addresses : List Address
deriving DecidableEq, Repr

structure Datagram where
  source : Endpoint
  destination : Endpoint
  bytes : Nat
  /-- Sent by an instance of an echo server. -/
  fromInstance : Bool
deriving DecidableEq, Repr

/-! ## Servers -/

/-- The instance responds to the port of the sender. -/
def Instance.respondsTo (i : Instance) (port : UInt16) : Bool :=
  decide (port.toNat ≥ 1024) && decide (port ≠ i.localPort)

/-- `handleMessage`: the endpoint to which the message is sent back. -/
def Instance.handleMessage (i : Instance) (d : Datagram) : Option Endpoint :=
  if d.bytes > 0 then
    if i.respondsTo d.source.port then some d.source else none
  else none

/-- An echo server process: its options, and what its host provides. -/
structure Server where
  localPortFrom : UInt16
  localPortTo : UInt16
  addresses : List Address
  /-- The port to which a socket is bound if port 0 is configured. -/
  ephemeralPort : UInt16

/-- The checks of the port range in `main`: the last port, if the range is valid. -/
def Server.checkedPortTo (s : Server) : Option UInt16 :=
  let localPortTo := if s.localPortTo = 0 then s.localPortFrom else s.localPortTo
  if localPortTo < 1 ∨ s.localPortFrom > localPortTo then none else some localPortTo

def Server.makeInstance (s : Server) (localPort : Nat) : Instance where
  localPort := UInt16.ofNat localPort
  boundPort := if UInt16.ofNat localPort = 0 then s.ephemeralPort else UInt16.ofNat localPort
  addresses := s.addresses

/-- The instances that `main` creates. -/
def Server.instances (s : Server) : List Instance :=
  match s.checkedPortTo with
  | none => []
  | some localPortTo =>
    (List.range' s.localPortFrom.toNat (1 + localPortTo.toNat - s.localPortFrom.toNat)).map
      s.makeInstance

/-- The instances of two servers. -/
def network (s t : Server) : List Instance := s.instances ++ t.instances

/-! ## The network -/

structure State where
  inFlight : List Datagram
  /-- The number of datagrams that were not sent by instances. -/
  injected : Nat
  /-- The datagrams to which an instance has sent a response. -/
  answered : List Datagram

def State.start : State := ⟨[], 0, []⟩

inductive Event where
  /-- Somebody sends a datagram; the source may be forged. -/
  | inject (source destination : Endpoint) (bytes : Nat)
  | lose (d : Datagram)
  /-- The datagram reaches the instance; a response has the given source address. -/
  | deliver (d : Datagram) (i : Instance) (address : Address)

/-- The response to a datagram.  Source and destination address are of the same family. -/
def response (d : Datagram) (i : Instance) (address : Address) (remote : Endpoint) : Datagram where
  source := ⟨address, i.boundPort⟩
  destination := remote
  bytes := d.bytes
  fromInstance := true

/-- What an event does; an event that cannot happen in the state does nothing. -/
def step (net : List Instance) (s : State) : Event → State
  | .inject source destination bytes =>
    { s with inFlight := ⟨source, destination, bytes, false⟩ :: s.inFlight
             injected := s.injected + 1 }
  | .lose d => { s with inFlight := s.inFlight.erase d }
  | .deliver d i address =>
    if d ∈ s.inFlight ∧ i ∈ net ∧ d.destination.address ∈ i.addresses ∧
        d.destination.port = i.boundPort then
      match i.handleMessage d with
      | none => { s with inFlight := s.inFlight.erase d }
      | some remote =>
        if address ∈ i.addresses ∧ address.isV6 = remote.address.isV6 then
          { s with inFlight := response d i address remote :: s.inFlight.erase d
                   answered := s.answered ++ [d] }
        else s
    else s

def run (net : List Instance) (events : List Event) : State := events.foldl (step net) .start

/-! ## Loops -/

/-- In every run, no datagram of an instance is answered, and there are no more responses than
datagrams of others. -/
def LoopFree (net : List Instance) : Prop :=
  ∀ events, (∀ d ∈ (run net events).answered, d.fromInstance = false) ∧
    (run net events).answered.length ≤ (run net events).injected

/-- The instances respond to each other. -/
def EchoPair (i j : Instance) : Prop :=
  (∃ a ∈ i.addresses, ∃ b ∈ j.addresses, a.isV6 = b.isV6) ∧
    i.respondsTo j.boundPort = true ∧ j.respondsTo i.boundPort = true

def NoEchoPair (net : List Instance) : Prop := ∀ i ∈ net, ∀ j ∈ net, ¬ EchoPair i j

variable {net : List Instance}

theorem handleMessage_eq_some {i : Instance} {d : Datagram} {remote : Endpoint}
    (h : i.handleMessage d = some remote) :
    d.bytes > 0 ∧ i.respondsTo d.source.port = true ∧ remote = d.source := by
  unfold Instance.handleMessage at h
  split at h
  · next hbytes =>
    split at h
    · next hresponds => exact ⟨hbytes, hresponds, (Option.some.inj h).symm⟩
    · cases h
  · cases h

theorem handleMessage_of_respondsTo {i : Instance} {d : Datagram} (hbytes : d.bytes > 0)
    (h : i.respondsTo d.source.port = true) : i.handleMessage d = some d.source := by
  unfold Instance.handleMessage
  rw [if_pos hbytes, if_pos h]

/-- What the datagrams of instances are: responses of an instance of the network. -/
structure Sent (net : List Instance) (d : Datagram) : Prop where
  sender : ∃ i ∈ net, d.source.port = i.boundPort ∧ d.source.address ∈ i.addresses ∧
    i.respondsTo d.destination.port = true
  family : d.source.address.isV6 = d.destination.address.isV6

/-- The invariant of a network without a pair: each answer has used up an injected datagram. -/
structure Quiet (net : List Instance) (s : State) : Prop where
  sent : ∀ d ∈ s.inFlight, d.fromInstance = true → Sent net d
  answered : ∀ d ∈ s.answered, d.fromInstance = false
  count : s.answered.length + s.inFlight.countP (fun d => !d.fromInstance) ≤ s.injected

theorem Quiet.erase {s : State} (h : Quiet net s) (d : Datagram) :
    Quiet net { s with inFlight := s.inFlight.erase d } := by
  refine ⟨fun x hx => h.sent x (List.mem_of_mem_erase hx), h.answered, ?_⟩
  have hle := List.Sublist.countP_le (p := fun d => !d.fromInstance)
    (List.erase_sublist (a := d) (l := s.inFlight))
  have hcount := h.count
  show s.answered.length + (s.inFlight.erase d).countP (fun d => !d.fromInstance) ≤ s.injected
  omega

/-- **A step.**  A response to the response of another instance would make them a pair. -/
theorem Quiet.step (hnet : NoEchoPair net) {s : State} (h : Quiet net s) (event : Event) :
    Quiet net (step net s event) := by
  cases event with
  | inject source destination bytes =>
    refine ⟨?_, h.answered, ?_⟩
    · intro d hd hfrom
      rcases List.mem_cons.mp hd with rfl | hd
      · cases hfrom
      · exact h.sent d hd hfrom
    · have hcount := h.count
      simp only [Echo.step, List.countP_cons, Bool.not_false, if_true]
      omega
  | lose d => exact h.erase d
  | deliver d i address =>
    simp only [Echo.step]
    split
    · next hdeliver =>
      obtain ⟨hd, hi, hat, hport⟩ := hdeliver
      split
      · exact h.erase d
      · next remote hremote =>
        split
        · next haddress =>
          obtain ⟨-, hresponds, rfl⟩ := handleMessage_eq_some hremote
          have hfrom : d.fromInstance = false := by
            by_contra hno
            obtain ⟨⟨j, hj, hsource, ha, hrespondsTo⟩, hfamily⟩ :=
              h.sent d hd (Bool.of_not_eq_false hno)
            rw [hport] at hrespondsTo
            rw [hsource] at hresponds
            exact hnet j hj i hi ⟨⟨_, ha, _, hat, hfamily⟩, hrespondsTo, hresponds⟩
          refine ⟨?_, ?_, ?_⟩
          · intro x hx hxfrom
            rcases List.mem_cons.mp hx with rfl | hx
            · exact ⟨⟨i, hi, rfl, haddress.1, hresponds⟩, haddress.2⟩
            · exact h.sent x (List.mem_of_mem_erase hx) hxfrom
          · intro x hx
            rcases List.mem_append.mp hx with hx | hx
            · exact h.answered x hx
            · rw [List.mem_singleton.mp hx]
              exact hfrom
          · have hperm := (List.perm_cons_erase hd).countP_eq (fun d => !d.fromInstance)
            have hcount := h.count
            rw [hperm, List.countP_cons, hfrom] at hcount
            simp only [List.length_append, List.length_singleton, List.countP_cons, response,
              Bool.not_true, Bool.not_false, Bool.false_eq_true, if_true, if_false] at hcount ⊢
            omega
        · exact h
    · exact h

theorem Quiet.run (hnet : NoEchoPair net) (events : List Event) : Quiet net (run net events) := by
  refine List.foldlRecOn events (Echo.step net) ⟨?_, ?_, ?_⟩ fun s hs event _ => hs.step hnet event
  · intro d hd
    cases hd
  · intro d hd
    cases hd
  · exact Nat.le_refl 0

/-! ## A pair of instances -/

/-- A datagram between two instances that respond to each other is answered without end. -/
structure Bouncing (net : List Instance) (i j : Instance) (a b : Address) : Prop where
  left : i ∈ net
  right : j ∈ net
  at_left : a ∈ i.addresses
  at_right : b ∈ j.addresses
  family : a.isV6 = b.isV6
  left_responds : i.respondsTo j.boundPort = true
  right_responds : j.respondsTo i.boundPort = true

theorem Bouncing.symm {i j : Instance} {a b : Address} (h : Bouncing net i j a b) :
    Bouncing net j i b a :=
  ⟨h.right, h.left, h.at_right, h.at_left, h.family.symm, h.right_responds, h.left_responds⟩

/-- From `j` to `i`. -/
def between (j i : Instance) (b a : Address) (fromInstance : Bool) : Datagram :=
  ⟨⟨b, j.boundPort⟩, ⟨a, i.boundPort⟩, 1, fromInstance⟩

/-- `i` answers the only datagram in flight. -/
theorem Bouncing.step {i j : Instance} {a b : Address} (h : Bouncing net i j a b)
    (fromInstance : Bool) (injected : Nat) (answered : List Datagram) :
    Echo.step net ⟨[between j i b a fromInstance], injected, answered⟩
        (.deliver (between j i b a fromInstance) i a) =
      ⟨[between i j a b true], injected, answered ++ [between j i b a fromInstance]⟩ := by
  have hremote : i.handleMessage (between j i b a fromInstance) = some ⟨b, j.boundPort⟩ :=
    handleMessage_of_respondsTo Nat.one_pos h.left_responds
  simp only [Echo.step]
  rw [if_pos ⟨List.mem_singleton_self _, h.left, h.at_left, rfl⟩, hremote]
  simp only [h.at_left, h.family, and_self, if_true, List.erase_cons_head]
  rfl

/-- The instances go on answering each other. -/
theorem Bouncing.run (n : Nat) {i j : Instance} {a b : Address} (h : Bouncing net i j a b)
    (fromInstance : Bool) (injected : Nat) (answered : List Datagram) :
    ∃ events : List Event, ∃ s,
      events.foldl (Echo.step net) ⟨[between j i b a fromInstance], injected, answered⟩ = s ∧
        s.injected = injected ∧ s.answered.length = answered.length + n ∧
        answered <+: s.answered := by
  induction n generalizing i j a b fromInstance answered with
  | zero => exact ⟨[], _, rfl, rfl, rfl, List.prefix_rfl⟩
  | succ n ih =>
    obtain ⟨events, s, hs, hinjected, hlength, hprefix⟩ :=
      ih h.symm true (answered ++ [between j i b a fromInstance])
    refine ⟨.deliver (between j i b a fromInstance) i a :: events, s, ?_, hinjected, ?_, ?_⟩
    · rw [List.foldl_cons, h.step]
      exact hs
    · rw [hlength, List.length_append, List.length_singleton]
      omega
    · exact (List.prefix_append _ _).trans hprefix

theorem exists_bouncing (h : ¬ NoEchoPair net) : ∃ i j a b, Bouncing net i j a b := by
  unfold NoEchoPair at h
  push Not at h
  obtain ⟨i, hi, j, hj, ⟨a, ha, b, hb, hfamily⟩, hij, hji⟩ := h
  exact ⟨i, j, a, b, hi, hj, ha, hb, hfamily, hij, hji⟩

/-- **One forged datagram causes any number of responses**, if two instances respond to each
other. -/
theorem loop_unbounded (h : ¬ NoEchoPair net) (n : Nat) :
    ∃ events, (run net events).injected = 1 ∧ (run net events).answered.length = n := by
  obtain ⟨i, j, a, b, hpair⟩ := exists_bouncing h
  obtain ⟨events, s, hs, hinjected, hlength, -⟩ := hpair.run n false 1 []
  refine ⟨.inject ⟨b, j.boundPort⟩ ⟨a, i.boundPort⟩ 1 :: events, ?_⟩
  have hrun : run net (.inject ⟨b, j.boundPort⟩ ⟨a, i.boundPort⟩ 1 :: events) = s := hs
  rw [hrun, hlength]
  exact ⟨hinjected, Nat.zero_add n⟩

theorem loopFree_network (net : List Instance) : LoopFree net ↔ NoEchoPair net := by
  constructor
  · intro hfree
    by_contra hno
    obtain ⟨events, hinjected, hlength⟩ := loop_unbounded hno 2
    have hle := (hfree events).2
    omega
  · intro hnet events
    have hquiet := Quiet.run hnet events
    have hcount := hquiet.count
    exact ⟨hquiet.answered, by omega⟩

/-- **Two echo servers cannot be driven into a loop** exactly if none of their instances respond to
each other. -/
theorem loopFree_iff (s t : Server) : LoopFree (network s t) ↔ NoEchoPair (network s t) :=
  loopFree_network (network s t)

/-- With configured ports, two instances respond to each other if both ports are at least 1024 and
differ. -/
theorem echoPair_iff {i j : Instance} (hi : i.boundPort = i.localPort)
    (hj : j.boundPort = j.localPort) : EchoPair i j ↔
      (∃ a ∈ i.addresses, ∃ b ∈ j.addresses, a.isV6 = b.isV6) ∧
        i.boundPort.toNat ≥ 1024 ∧ j.boundPort.toNat ≥ 1024 ∧ i.boundPort ≠ j.boundPort := by
  unfold EchoPair Instance.respondsTo
  simp only [Bool.and_eq_true, decide_eq_true_eq, ← hi, ← hj]
  constructor
  · rintro ⟨haddresses, ⟨hhigh, hne⟩, hhigh', -⟩
    exact ⟨haddresses, hhigh', hhigh, hne.symm⟩
  · rintro ⟨haddresses, hhigh, hhigh', hne⟩
    exact ⟨haddresses, ⟨hhigh', hne.symm⟩, hhigh, hne⟩

/-! ## Two servers on high ports -/

/-- An echo server on one port, at 10.0.0.1. -/
def serverA : Server := ⟨5000, 0, [.v4 0x0a000001], 32768⟩

/-- An echo server on another port, at 10.0.0.2. -/
def serverB : Server := ⟨6000, 0, [.v4 0x0a000002], 32768⟩

/-- A datagram with the source 10.0.0.2:6000 is sent to 10.0.0.1:5000.  The response is answered. -/
theorem high_ports_loop :
    let events : List Event :=
      [.inject ⟨.v4 0x0a000002, 6000⟩ ⟨.v4 0x0a000001, 5000⟩ 1,
       .deliver ⟨⟨.v4 0x0a000002, 6000⟩, ⟨.v4 0x0a000001, 5000⟩, 1, false⟩
         (serverA.makeInstance 5000) (.v4 0x0a000001),
       .deliver ⟨⟨.v4 0x0a000001, 5000⟩, ⟨.v4 0x0a000002, 6000⟩, 1, true⟩
         (serverB.makeInstance 6000) (.v4 0x0a000002)]
    (run (network serverA serverB) events).injected = 1 ∧
      (run (network serverA serverB) events).answered =
        [⟨⟨.v4 0x0a000002, 6000⟩, ⟨.v4 0x0a000001, 5000⟩, 1, false⟩,
         ⟨⟨.v4 0x0a000001, 5000⟩, ⟨.v4 0x0a000002, 6000⟩, 1, true⟩] := by
  decide +kernel

end HiPerConTracer.Echo
