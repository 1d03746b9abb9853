import Anslp.Session.Safety
import Mathlib.Data.List.Nodup

/-!
# The session manager

The table of sessions of a node, the list of sessions that are done, and the sessions that
were deleted.  The definitions follow {lit}`session_manager`.  A session object stands at
an address of its own, and the addresses of deleted sessions are kept, so that a use or a
second deletion of one can be seen.

Main results:

- Theorem {lit}`createUniqueId_isSome`: the search for an unused identifier ends when the
  identifiers drawn are distinct.
- Theorem {lit}`Owned.removeSession`: a session in the table is moved to the list of done
  sessions, and what overflows there is deleted, once.

Current gaps:

- The locks of the table show only in whether a call comes back.
-/

namespace Anslp

/-! ## Sessions of any role -/

/-- A session of an initiator, a forwarder or a responder. -/
inductive AnySession (α : Type)
  | ni (s : NiSession α)
  | nf (s : NfSession α)
  | nr (s : NrSession α)

namespace AnySession

variable {α : Type}

def getId : AnySession α → SessionId
  | ni s => s.id
  | nf s => s.id
  | nr s => s.id

/-- Whether the session has ended. -/
def isFinal : AnySession α → Bool
  | ni s => s.isFinal
  | nf s => s.isFinal
  | nr s => s.isFinal

/-- Process an event. -/
def processEvent (conf : AnslpConfig) (d : Dispatcher α) (evt : Event α) :
    AnySession α → Outcome (AnySession α) α
  | ni s => (s.processEvent d evt).map ni
  | nf s => (s.processEvent conf d evt).map nf
  | nr s => (s.processEvent conf d evt).map nr

variable {conf : AnslpConfig} {d : Dispatcher α} {evt : Event α} {s s' : AnySession α}

/-- A session keeps its identifier. -/
theorem getId_of_processEvent (h : (s.processEvent conf d evt).left? = some s') :
    s'.getId = s.getId := by
  cases s with
  | ni s =>
      rw [processEvent, Outcome.left?_map, Option.map_eq_some_iff] at h
      obtain ⟨t, ht, rfl⟩ := h
      exact NiSession.id_of_processEvent ht
  | nf s =>
      rw [processEvent, Outcome.left?_map, Option.map_eq_some_iff] at h
      obtain ⟨t, ht, rfl⟩ := h
      exact NfSession.id_of_processEvent ht
  | nr s =>
      rw [processEvent, Outcome.left?_map, Option.map_eq_some_iff] at h
      obtain ⟨t, ht, rfl⟩ := h
      exact NrSession.id_of_processEvent ht

end AnySession

/-! ## The manager -/

/-- Room in the list of done sessions. -/
def doneSessionListSize : Nat := 300

/-- The session objects by address, the table of sessions, the list of done sessions, the
addresses of deleted ones, and those of the ones whose lock is held. -/
structure SessionManager (α : Type) where
  sessions : List (AnySession α)
  sessionTable : OrderedMap (BitVec.toNat : SessionId → Nat) Nat
  sessionDone : List (Option Nat)
  deleted : List Nat
  locked : List Nat

namespace SessionManager

variable {α : Type}

/-- A manager without sessions. -/
def empty : SessionManager α :=
  ⟨[], OrderedMap.empty, [], [], []⟩

/-- The session a pointer points to. -/
def deref (m : SessionManager α) : Option Nat → Except Fault (AnySession α)
  | none => .error .nullPointer
  | some addr =>
      if addr ∈ m.deleted then .error .deleted
      else
        match m.sessions[addr]? with
        | some s => .ok s
        | none => .error .nullPointer

/-- The manager after a change of the session at an address. -/
def update (m : SessionManager α) (addr : Nat) (s : AnySession α) : SessionManager α :=
  { m with sessions := m.sessions.set addr s }

/-- Take the lock of a session, or wait for it forever. -/
def acquire (m : SessionManager α) (addr : Nat) : Except Fault (SessionManager α) :=
  if addr ∈ m.locked then .error .endless else .ok { m with locked := addr :: m.locked }

/-- Give the lock of a session back. -/
def release (m : SessionManager α) (addr : Nat) : SessionManager α :=
  { m with locked := m.locked.erase addr }

/-- Draw identifiers until one is not in the table; at most the given number of times. -/
def createUniqueId (table : OrderedMap (BitVec.toNat : SessionId → Nat) Nat) :
    (Nat → SessionId) → Nat → Option SessionId
  | _, 0 => none
  | draw, n + 1 =>
      if (table.find? (draw 0)).isNone then some (draw 0)
      else createUniqueId table (fun i => draw (i + 1)) n

/-- A new session is added to the table under its identifier. -/
def addSession (m : SessionManager α) (s : AnySession α) : SessionManager α × Nat :=
  ({ m with
      sessions := m.sessions ++ [s]
      sessionTable := m.sessionTable.insert s.getId m.sessions.length }, m.sessions.length)

/-- Create an initiator session under a unique identifier. -/
def createNiSession (conf : AnslpConfig) (draw : Nat → SessionId) (random : UInt32)
    (m : SessionManager α) : Except Fault (SessionManager α × Nat) :=
  match createUniqueId m.sessionTable draw (m.sessionTable.size + 1) with
  | some id => .ok (m.addSession (.ni (NiSession.new conf id random)))
  | none => .error .endless

/-- Create a forwarder session. -/
def createNfSession (sid : SessionId) (m : SessionManager α) : SessionManager α × Nat :=
  m.addSession (.nf (NfSession.new sid))

/-- Create a responder session. -/
def createNrSession (conf : AnslpConfig) (sid : SessionId) (random : UInt32)
    (m : SessionManager α) : SessionManager α × Nat :=
  m.addSession (.nr (NrSession.new conf sid random))

/-- The session stored under an identifier. -/
def getSession (m : SessionManager α) (sid : SessionId) : Option Nat :=
  m.sessionTable.find? sid

/-- Delete the session a pointer points to, if it is not null. -/
def saveDelete (m : SessionManager α) : Option Nat → Except Fault (SessionManager α)
  | none => .ok m
  | some addr =>
      if addr ∈ m.deleted then .error .deleted
      else .ok { m with deleted := addr :: m.deleted }

/-- Put a session at the end of the list of done sessions; when this is too long the first
one is deleted. -/
def storeSessionAsdone (m : SessionManager α) (s : Option Nat) :
    Except Fault (SessionManager α) :=
  let sessionDone := m.sessionDone ++ [s]
  if sessionDone.length > doneSessionListSize then do
    let m ← m.saveDelete (sessionDone.head?.getD none)
    .ok { m with sessionDone := sessionDone.tail }
  else .ok { m with sessionDone := sessionDone }

/-- Remove a session from the table and put it on the list of done sessions.  The argument of
the log statement is a call through the pointer, whether a session was found or not; what is
printed is left out, as it is everywhere. -/
def removeSession (m : SessionManager α) (sid : SessionId) :
    Except Fault (Option Nat × SessionManager α) := do
  let s := m.sessionTable.find? sid
  let m := { m with sessionTable := m.sessionTable.erase sid }
  let _ ← m.deref s
  let m ← m.storeSessionAsdone s
  .ok (s, m)

/-! ## Unique identifiers -/

theorem isSome_of_createUniqueId_eq_none
    {table : OrderedMap (BitVec.toNat : SessionId → Nat) Nat} {draw : Nat → SessionId} {n : Nat}
    (h : createUniqueId table draw n = none) :
    ∀ i < n, (table.find? (draw i)).isSome = true := by
  fun_induction createUniqueId table draw n with
  | case1 => exact nofun
  | case2 => cases h
  | case3 draw n hused ih =>
      intro i hi
      cases i with
      | zero => exact Option.isSome_iff_ne_none.mpr (Option.isNone_iff_eq_none.not.mp hused)
      | succ i => exact ih h i (Nat.lt_of_succ_lt_succ hi)

/-- A table in which every identifier drawn is found has room for them all. -/
theorem createUniqueId_isSome {table : OrderedMap (BitVec.toNat : SessionId → Nat) Nat}
    {draw : Nat → SessionId} {n : Nat} (hdistinct : DistinctKeys draw n)
    (hsize : table.size < n) : (createUniqueId table draw n).isSome = true := by
  by_contra hnone
  have hused := isSome_of_createUniqueId_eq_none (Option.not_isSome_iff_eq_none.mp hnone)
  have hnodup : ((List.range n).map draw).Nodup :=
    List.Nodup.map_on (fun i hi j hj => hdistinct i j (List.mem_range.mp hi) (List.mem_range.mp hj))
      List.nodup_range
  have hsubset : (List.range n).map draw ⊆ table.keys := by
    intro id hid
    obtain ⟨i, hi, rfl⟩ := List.mem_map.mp hid
    obtain ⟨addr, haddr⟩ := Option.isSome_iff_exists.mp (hused i (List.mem_range.mp hi))
    obtain ⟨key, hrank, hmem⟩ := OrderedMap.find?_eq_some haddr
    exact List.mem_map.mpr ⟨(key, addr), hmem, BitVec.eq_of_toNat_eq hrank⟩
  have hle := (List.subperm_of_subset hnodup hsubset).length_le
  rw [List.length_map, List.length_range, OrderedMap.keys, List.length_map] at hle
  exact absurd hle (Nat.not_le.mpr hsize)

theorem createUniqueId_unused {table : OrderedMap (BitVec.toNat : SessionId → Nat) Nat}
    {draw : Nat → SessionId} {n : Nat} {id : SessionId}
    (h : createUniqueId table draw n = some id) : table.find? id = none := by
  fun_induction createUniqueId table draw n with
  | case1 => cases h
  | case2 draw n hunused =>
      cases h
      exact Option.isNone_iff_eq_none.mp hunused
  | case3 draw n _ ih => exact ih h

/-! ## Ownership -/

/-- Each session object is in one place: in the table under its own identifier, on the list
of done sessions, or deleted. -/
structure Owned (m : SessionManager α) : Prop where
  table : ∀ sid addr, m.sessionTable.find? sid = some addr →
    ∃ s, m.sessions[addr]? = some s ∧ s.getId = sid
  tableDone : ∀ sid addr, m.sessionTable.find? sid = some addr → some addr ∉ m.sessionDone
  tableDeleted : ∀ sid addr, m.sessionTable.find? sid = some addr → addr ∉ m.deleted
  done : ∀ x ∈ m.sessionDone, ∃ addr, x = some addr ∧ addr < m.sessions.length ∧
    addr ∉ m.deleted
  doneNodup : m.sessionDone.Nodup
  deleted : ∀ addr ∈ m.deleted, addr < m.sessions.length
  deletedNodup : m.deleted.Nodup
  cover : ∀ addr < m.sessions.length, (∃ sid, m.sessionTable.find? sid = some addr) ∨
    some addr ∈ m.sessionDone ∨ addr ∈ m.deleted

variable {m : SessionManager α}

theorem owned_empty : (empty : SessionManager α).Owned where
  table := fun sid addr h => by simp [empty] at h
  tableDone := fun _ _ _ => List.not_mem_nil
  tableDeleted := fun _ _ _ => List.not_mem_nil
  done := nofun
  doneNodup := List.nodup_nil
  deleted := nofun
  deletedNodup := List.nodup_nil
  cover := nofun

theorem Owned.lt_length (h : m.Owned) {sid : SessionId} {addr : Nat}
    (haddr : m.sessionTable.find? sid = some addr) : addr < m.sessions.length := by
  obtain ⟨s, hs, _⟩ := h.table sid addr haddr
  exact (List.getElem?_eq_some_iff.mp hs).1

/-- Locks do not matter. -/
theorem Owned.withLocked (h : m.Owned) (locked : List Nat) :
    ({ m with locked := locked } : SessionManager α).Owned :=
  ⟨h.table, h.tableDone, h.tableDeleted, h.done, h.doneNodup, h.deleted, h.deletedNodup, h.cover⟩

/-- A session in the table can be used. -/
theorem Owned.deref (h : m.Owned) {sid : SessionId} {addr : Nat}
    (haddr : m.sessionTable.find? sid = some addr) :
    ∃ s, m.deref (some addr) = .ok s ∧ m.sessions[addr]? = some s ∧ s.getId = sid := by
  obtain ⟨s, hs, hid⟩ := h.table sid addr haddr
  refine ⟨s, ?_, hs, hid⟩
  rw [SessionManager.deref, if_neg (h.tableDeleted sid addr haddr), hs]

theorem toNat_injective : Function.Injective (BitVec.toNat : SessionId → Nat) :=
  fun _ _ => BitVec.eq_of_toNat_eq

/-- A session may be added under an identifier that is not used. -/
theorem Owned.addSession (h : m.Owned) {s : AnySession α}
    (hunused : m.sessionTable.find? s.getId = none) : (m.addSession s).1.Owned := by
  have hfind : ∀ sid, (m.addSession s).1.sessionTable.find? sid =
      if sid = s.getId then some m.sessions.length else m.sessionTable.find? sid :=
    fun sid => OrderedMap.find?_insert toNat_injective _ _ _ _
  have hold : ∀ sid addr, (m.addSession s).1.sessionTable.find? sid = some addr →
      (sid = s.getId ∧ addr = m.sessions.length) ∨ m.sessionTable.find? sid = some addr := by
    intro sid addr haddr
    rw [hfind] at haddr
    split_ifs at haddr with hsid
    · exact Or.inl ⟨hsid, (Option.some.inj haddr).symm⟩
    · exact Or.inr haddr
  have hlength : (m.addSession s).1.sessions.length = m.sessions.length + 1 := by
    simp [SessionManager.addSession]
  refine ⟨?_, ?_, ?_, ?_, h.doneNodup, ?_, h.deletedNodup, ?_⟩
  · intro sid addr haddr
    rcases hold sid addr haddr with ⟨rfl, rfl⟩ | hbefore
    · exact ⟨s, List.getElem?_concat_length, rfl⟩
    · obtain ⟨t, ht, hid⟩ := h.table sid addr hbefore
      refine ⟨t, ?_, hid⟩
      rw [← ht]
      exact List.getElem?_append_left (h.lt_length hbefore)
  · intro sid addr haddr hdone
    rcases hold sid addr haddr with ⟨rfl, rfl⟩ | hbefore
    · obtain ⟨_, heq, hlt, _⟩ := h.done _ hdone
      cases heq
      exact absurd hlt (Nat.lt_irrefl _)
    · exact h.tableDone sid addr hbefore hdone
  · intro sid addr haddr hdeleted
    rcases hold sid addr haddr with ⟨rfl, rfl⟩ | hbefore
    · exact absurd (h.deleted _ hdeleted) (Nat.lt_irrefl _)
    · exact h.tableDeleted sid addr hbefore hdeleted
  · intro x hx
    obtain ⟨addr, heq, hlt, hdeleted⟩ := h.done x hx
    exact ⟨addr, heq, by rw [hlength]; omega, hdeleted⟩
  · intro addr haddr
    rw [hlength]
    have := h.deleted addr haddr
    omega
  · intro addr haddr
    rw [hlength] at haddr
    rcases Nat.lt_succ_iff_lt_or_eq.mp haddr with hlt | rfl
    · rcases h.cover addr hlt with ⟨sid, hsid⟩ | hrest
      · refine Or.inl ⟨sid, ?_⟩
        rw [hfind, if_neg, hsid]
        rintro rfl
        rw [hunused] at hsid
        cases hsid
      · exact Or.inr hrest
    · exact Or.inl ⟨s.getId, by rw [hfind, if_pos rfl]⟩

/-- A session may change as long as it keeps its identifier. -/
theorem Owned.update (h : m.Owned) {addr : Nat} {s s' : AnySession α}
    (hs : m.sessions[addr]? = some s) (hid : s'.getId = s.getId) : (m.update addr s').Owned := by
  have hlength : (m.update addr s').sessions.length = m.sessions.length :=
    List.length_set
  refine ⟨?_, h.tableDone, h.tableDeleted, ?_, h.doneNodup, ?_, h.deletedNodup, ?_⟩
  · intro sid addr' haddr
    obtain ⟨t, ht, htid⟩ := h.table sid addr' haddr
    have hlt := h.lt_length haddr
    by_cases hsame : addr = addr'
    · subst hsame
      rw [hs] at ht
      cases ht
      exact ⟨s', List.getElem?_set_self hlt, hid.trans htid⟩
    · exact ⟨t, (List.getElem?_set_ne hsame).trans ht, htid⟩
  · rw [hlength]
    exact h.done
  · rw [hlength]
    exact h.deleted
  · rw [hlength]
    exact h.cover

/-- A session may be moved from the table to the list of done sessions. -/
theorem Owned.retire (h : m.Owned) {sid : SessionId} {addr : Nat}
    (haddr : m.sessionTable.find? sid = some addr) :
    ({ m with
      sessionTable := m.sessionTable.erase sid
      sessionDone := m.sessionDone ++ [some addr] } : SessionManager α).Owned := by
  have hold : ∀ sid' addr', (m.sessionTable.erase sid).find? sid' = some addr' →
      sid' ≠ sid ∧ m.sessionTable.find? sid' = some addr' := by
    intro sid' addr' h'
    rw [OrderedMap.find?_erase toNat_injective] at h'
    split_ifs at h' with hsid
    exact ⟨hsid, h'⟩
  refine ⟨?_, ?_, ?_, ?_, ?_, h.deleted, h.deletedNodup, ?_⟩
  · exact fun sid' addr' h' => h.table sid' addr' (hold sid' addr' h').2
  · intro sid' addr' h' hdone
    obtain ⟨hsid, hbefore⟩ := hold sid' addr' h'
    rcases List.mem_append.mp hdone with hdone | hdone
    · exact h.tableDone sid' addr' hbefore hdone
    · -- two identifiers of one session
      cases List.mem_singleton.mp hdone
      obtain ⟨s, hs, hid⟩ := h.table sid addr haddr
      obtain ⟨s', hs', hid'⟩ := h.table sid' addr hbefore
      rw [hs] at hs'
      cases hs'
      exact hsid (hid'.symm.trans hid)
  · exact fun sid' addr' h' => h.tableDeleted sid' addr' (hold sid' addr' h').2
  · intro x hx
    rcases List.mem_append.mp hx with hx | hx
    · exact h.done x hx
    · exact ⟨addr, List.mem_singleton.mp hx, h.lt_length haddr, h.tableDeleted sid addr haddr⟩
  · refine List.nodup_append.mpr ⟨h.doneNodup, List.nodup_singleton _, ?_⟩
    rintro x hx y hy rfl
    cases List.mem_singleton.mp hy
    exact h.tableDone sid addr haddr hx
  · intro addr' haddr'
    rcases h.cover addr' haddr' with ⟨sid', hsid'⟩ | hdone | hdeleted
    · by_cases hsid : sid' = sid
      · subst hsid
        rw [haddr] at hsid'
        cases hsid'
        exact Or.inr (Or.inl (List.mem_append_right _ List.mem_cons_self))
      · refine Or.inl ⟨sid', ?_⟩
        rw [OrderedMap.find?_erase toNat_injective, if_neg hsid, hsid']
    · exact Or.inr (Or.inl (List.mem_append_left _ hdone))
    · exact Or.inr (Or.inr hdeleted)

/-- The first of the done sessions may be deleted. -/
theorem Owned.drop (h : m.Owned) {addr : Nat} {rest : List (Option Nat)}
    (hdone : m.sessionDone = some addr :: rest) :
    ({ m with deleted := addr :: m.deleted, sessionDone := rest } : SessionManager α).Owned := by
  have hfirst : some addr ∈ m.sessionDone := by rw [hdone]; exact List.mem_cons_self
  obtain ⟨_, heq, hlt, hnew⟩ := h.done _ hfirst
  cases heq
  have hrest : ∀ x ∈ rest, x ∈ m.sessionDone := fun x hx => by
    rw [hdone]
    exact List.mem_cons_of_mem _ hx
  have hnodup := h.doneNodup
  rw [hdone, List.nodup_cons] at hnodup
  refine ⟨h.table, ?_, ?_, ?_, hnodup.2, ?_, ?_, ?_⟩
  · exact fun sid addr' h' hmem => h.tableDone sid addr' h' (hrest _ hmem)
  · intro sid addr' h' hmem
    rcases List.mem_cons.mp hmem with rfl | hmem
    · exact h.tableDone sid addr' h' hfirst
    · exact h.tableDeleted sid addr' h' hmem
  · intro x hx
    obtain ⟨addr', rfl, hlt', hnew'⟩ := h.done x (hrest x hx)
    refine ⟨addr', rfl, hlt', fun hmem => ?_⟩
    rcases List.mem_cons.mp hmem with rfl | hmem
    · exact hnodup.1 hx
    · exact hnew' hmem
  · intro addr' hmem
    rcases List.mem_cons.mp hmem with rfl | hmem
    · exact hlt
    · exact h.deleted addr' hmem
  · exact List.nodup_cons.mpr ⟨hnew, h.deletedNodup⟩
  · intro addr' haddr'
    rcases h.cover addr' haddr' with htable | hmem | hmem
    · exact Or.inl htable
    · rw [hdone] at hmem
      rcases List.mem_cons.mp hmem with heq | hmem
      · cases heq
        exact Or.inr (Or.inr List.mem_cons_self)
      · exact Or.inr (Or.inl hmem)
    · exact Or.inr (Or.inr (List.mem_cons_of_mem _ hmem))

/-- After the removal of a session from the table it may be put on the list of done
sessions, whose first one is deleted when it is too long. -/
theorem Owned.storeSessionAsdone (h : m.Owned) {sid : SessionId} {addr : Nat}
    (haddr : m.sessionTable.find? sid = some addr) :
    ∃ m', ({ m with sessionTable := m.sessionTable.erase sid } :
        SessionManager α).storeSessionAsdone (some addr) = .ok m' ∧ m'.Owned ∧
      m'.sessions = m.sessions ∧ m'.sessionTable = m.sessionTable.erase sid ∧
      m'.locked = m.locked ∧ (m.sessionDone.length ≤ doneSessionListSize →
        m'.sessionDone.length ≤ doneSessionListSize) := by
  have hretired := h.retire haddr
  simp only [SessionManager.storeSessionAsdone]
  split_ifs with hlong
  · cases hdone : m.sessionDone ++ [some addr] with
    | nil => simp at hdone
    | cons front rest =>
        obtain ⟨addr', rfl, _, hnew⟩ := hretired.done front (by
          rw [show _ ++ _ = _ from hdone]; exact List.mem_cons_self)
        have hlength : m.sessionDone.length + 1 = rest.length + 1 := by
          simpa using congrArg List.length hdone
        have hle : m.sessionDone.length ≤ doneSessionListSize →
            rest.length ≤ doneSessionListSize := by omega
        refine ⟨_, ?_, hretired.drop hdone, rfl, rfl, rfl, hle⟩
        simp only [List.head?_cons, Option.getD_some, List.tail_cons, SessionManager.saveDelete,
          if_neg hnew, bind, Except.bind]
  · exact ⟨_, rfl, hretired, rfl, rfl, rfl, fun _ => Nat.not_lt.mp hlong⟩

/-- A session in the table is moved to the list of done sessions. -/
theorem Owned.removeSession (h : m.Owned) {sid : SessionId} {addr : Nat}
    (haddr : m.sessionTable.find? sid = some addr) :
    ∃ m', m.removeSession sid = .ok (some addr, m') ∧ m'.Owned ∧
      m'.sessions = m.sessions ∧ m'.sessionTable = m.sessionTable.erase sid ∧
      m'.locked = m.locked ∧ (m.sessionDone.length ≤ doneSessionListSize →
        m'.sessionDone.length ≤ doneSessionListSize) := by
  obtain ⟨m', hstore, howned, hrest⟩ := h.storeSessionAsdone haddr
  obtain ⟨s, hderef, _⟩ := h.deref haddr
  refine ⟨m', ?_, howned, hrest⟩
  have hderef' : ({ m with sessionTable := m.sessionTable.erase sid } :
      SessionManager α).deref (some addr) = .ok s := hderef
  rw [SessionManager.removeSession, haddr]
  simp only [hderef', hstore, bind, Except.bind]

end SessionManager
end Anslp
