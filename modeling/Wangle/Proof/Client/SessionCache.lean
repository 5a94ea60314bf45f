import Wangle.Client.SSLSessionPersistentCache
import Wangle.Proof.Client.CrashRecovery

/-!
# Where the sessions come from that a client resumes
-/

namespace Wangle.Proof.Client
open Wangle.Client Wangle.Recency SSLSessionPersistentCache
open Wangle.Transition hiding run

variable {K σ : Type} {setup : SSLSessionSetup K σ} {ops : List (SSLSessionPersistentCache.Op K σ)}

theorem getSessionFromCacheData_eq {ssl : OpenSSL σ} {session : SSLSession σ} {data : SSLSessionCacheData σ}
    (cached : getCacheDataForSession ssl session = some data) (now : Int) {value : SSLSessionCacheData σ}
    (same : value = { data with addedTime := now } ∨
      value = SSLSessionCacheData.converted { data with addedTime := now }) :
    getSessionFromCacheData ssl value = some session ∧ value.addedTime = now := by
  obtain ⟨sessionData, serialized, rfl⟩ := Option.map_eq_some_iff.mp cached
  have identified : setSessionServiceIdentity { session := session.session } session.serviceIdentity = session := by
    unfold setSessionServiceIdentity
    split
    · rename_i empty
      rw [← String.isEmpty_iff.mp empty]
    · rfl
  rcases same with rfl | rfl
  · cases dup : ssl.haveSessionDup <;> simp [getSessionFromCacheData, ssl.d2i_i2d serialized, identified]
  · simp [getSessionFromCacheData, SSLSessionCacheData.converted, ssl.d2i_i2d serialized, identified]

theorem request_put {op : SSLSessionPersistentCache.Op K σ} {k : K} {value : SSLSessionCacheData σ}
    (requested : request setup op = some (.cache (.put k value))) :
    ∃ key name session now data, op = .newSessionCallback key name session now ∧
      (sessionKey key name).isEmpty = false ∧ k = setup.getKey (sessionKey key name) ∧
      getCacheDataForSession setup.toOpenSSL { session with serviceIdentity := sessionKey key name } = some data ∧
      value = { data with addedTime := now } := by
  cases op with
  | getSSLSession identity => simp [request] at requested
  | removeSSLSession identity => simp [request, removeSSLSession] at requested
  | newSessionCallback key name session now =>
      simp only [request] at requested
      split at requested
      · cases requested
      · rename_i named
        rw [setSessionServiceIdentity, if_neg named] at requested
        obtain ⟨data, cached, same⟩ := Option.map_eq_some_iff.mp requested
        cases same
        exact ⟨key, name, session, now, data, rfl, by simpa using named, rfl, cached, rfl⟩
  | removeSessionCallback session =>
      simp only [request] at requested
      split at requested
      · simp [removeSSLSession] at requested
      · simp [removeSSLSession] at requested
  | cache op =>
      simp only [request] at requested
      split at requested
      · cases requested
      · cases requested
        exact absurd rfl ‹_›

variable [DecidableEq K] {s : FilePersistentCache K (SSLSessionCacheData σ)}

theorem find_fst (k : K) (m : CacheMap K (SSLSessionCacheData σ)) :
    (m.find k).1 = (m.entries.find? (·.1 = k)).map Prod.snd := by
  unfold CacheMap.find
  split <;> simp [*]

theorem find_remove (k : K) (c : LRUInMemoryCache K (SSLSessionCacheData σ)) :
    ((c.remove k).cache.find k).1 = none := by
  rw [find_fst, Option.map_eq_none_iff, List.find?_eq_none, LRUInMemoryCache.remove]
  split
  · simp [CacheMap.erase, CacheMap.without]
  · rename_i absent
    exact fun entry member same => absent (List.any_eq_true.mpr ⟨entry, member, same⟩)

theorem getSSLSession_some {identity : String} {now : Int} {session : SSLSession σ}
    (found : getSSLSession setup identity now s = some session) :
    ∃ value, (setup.getKey identity, value) ∈ contents s ∧
      getSessionFromCacheData setup.toOpenSSL value = some session ∧
      expired setup session value.addedTime now = false := by
  simp only [getSSLSession, LRUInMemoryCache.get, find_fst] at found
  split at found
  · cases found
  · rename_i hit
    obtain ⟨⟨k, value⟩, first, rfl⟩ := Option.map_eq_some_iff.mp hit
    have same : k = setup.getKey identity := by simpa using List.find?_some first
    split at found
    · cases found
    · rename_i recreated
      split at found <;> cases found
      rename_i fresh
      exact ⟨value, same ▸ List.mem_of_find?_eq_some first, recreated, by simpa using fresh⟩

theorem found_new (done : run setup ops = .ok s) {identity : String} {now : Int} {session : SSLSession σ}
    (found : getSSLSession setup identity now s = some session) :
    ∃ key name original added, .newSessionCallback key name original added ∈ ops ∧
      (sessionKey key name).isEmpty = false ∧ setup.getKey identity = setup.getKey (sessionKey key name) ∧
      session = { original with serviceIdentity := sessionKey key name } ∧ expired setup session added now = false := by
  obtain ⟨value, member, recreated, fresh⟩ := getSSLSession_some found
  obtain ⟨original, put, same⟩ := (run_recorded done).moment.put _ member
  obtain ⟨op, there, requested⟩ := List.mem_filterMap.mp put
  obtain ⟨key, name, new, added, data, rfl, named, key_eq, cached, rfl⟩ := request_put requested
  rw [setup.convert_eq] at same
  obtain ⟨recreates, rfl⟩ := getSessionFromCacheData_eq cached added same
  exact ⟨key, name, new, _, there, named, key_eq, Option.some.inj (recreated.symm.trans recreates), fresh⟩

def byteSessions : SSLSessionSetup String UInt8 where
  toFileSetup := oneText SSLSessionCacheData.converted (fun _ => rfl)
    [some ("a", { sessionData := [7], serviceIdentity := "a", sessionDuplicateTemplate := some ⟨7, "a"⟩ })]
    "[[\"a\",\x7b\"session_data\":\"\\u0007\",\"added_time\":0,\"service_identity\":\"a\"\x7d]]"
  i2d_SSL_SESSION session := some [session]
  d2i_SSL_SESSION := List.head?
  has_ticket _ := true
  get_ticket_lifetime_hint _ := 100
  get0_hostname _ := none
  haveSessionDup := true
  d2i_i2d := by
    intro session bytes serialized
    cases serialized
    rfl
  getKey := id
  convert_eq := rfl

def newAndRestart : List (SSLSessionPersistentCache.Op String UInt8) :=
  [.newSessionCallback "a" none ⟨7, ""⟩ 0, .cache (.cache .pick), .cache (.cache .test),
    .cache (.cache (.convert true)), .cache (.persist (.opened 71 true true)), .cache .restart]

section results
variable (setup : SSLSessionSetup K σ) (ops : List (SSLSessionPersistentCache.Op K σ))
  (s : FilePersistentCache K (SSLSessionCacheData σ)) (identity : String) (now : Int) (session : SSLSession σ)

/-- A session that is found was new, to this process or to one before it, under the same key and not too long ago. -/
theorem getSSLSession_finds_new (done : run setup ops = .ok s)
    (found : getSSLSession setup identity now s = some session) :
    ∃ key name original added, .newSessionCallback key name original added ∈ ops ∧
      setup.getKey identity = setup.getKey (sessionKey key name) ∧
      session = { original with serviceIdentity := sessionKey key name } ∧
      (setup.has_ticket session.session → 0 < setup.get_ticket_lifetime_hint session.session →
        (now - added).tdiv 1000000000 < setup.get_ticket_lifetime_hint session.session) := by
  obtain ⟨key, name, original, added, new, -, same, equal, fresh⟩ := found_new done found
  refine ⟨key, name, original, added, new, same, equal, fun ticket hinted => ?_⟩
  simpa [expired, ticket, hinted] using fresh

theorem getSSLSession_finds_new_restart :
    ∃ s, run byteSessions newAndRestart = .ok s ∧
      getSSLSession byteSessions "a" 99000000000 s = some ⟨7, "a"⟩ ∧
      ∃ key name original added, .newSessionCallback key name original added ∈ newAndRestart ∧
        byteSessions.getKey "a" = byteSessions.getKey (sessionKey key name) ∧
        (⟨7, "a"⟩ : SSLSession UInt8) = { original with serviceIdentity := sessionKey key name } ∧
        (byteSessions.has_ticket 7 → 0 < byteSessions.get_ticket_lifetime_hint 7 →
          (99000000000 - added).tdiv 1000000000 < (byteSessions.get_ticket_lifetime_hint 7 : Int)) :=
  (Ends.exists_ok (Q := fun s => getSSLSession byteSessions "a" 99000000000 s = some ⟨7, "a"⟩) (by decide)).imp
    fun s ⟨done, found⟩ => ⟨done, found, getSSLSession_finds_new byteSessions newAndRestart s "a" _ ⟨7, "a"⟩ done found⟩

/-- The callback for a removed session leaves nothing to find where the session was found. -/
theorem removeSessionCallback_removes_found (done : run setup ops = .ok s)
    (found : getSSLSession setup identity now s = some session) :
    ∃ s', run setup (ops ++ [.removeSessionCallback session]) = .ok s' ∧
      ∀ later, getSSLSession setup identity later s' = none := by
  obtain ⟨key, name, original, added, -, named, same, rfl, -⟩ := found_new done found
  have requested : request setup (.removeSessionCallback { original with serviceIdentity := sessionKey key name }) =
      some (.cache (.remove (setup.getKey identity))) := by
    simp [request, named, removeSSLSession, same]
  refine ⟨{ s with cache := { s.cache with cache := s.cache.cache.remove (setup.getKey identity) } }, ?_, ?_⟩
  · rw [run, List.filterMap_append, List.filterMap_cons_some requested]
    exact run_append.mpr ⟨s, done, rfl⟩
  · intro later
    simp [getSSLSession, LRUInMemoryCache.get, find_remove]

theorem removeSessionCallback_removes_found_restart :
    ∃ s, run byteSessions newAndRestart = .ok s ∧ getSSLSession byteSessions "a" 1 s = some ⟨7, "a"⟩ ∧
      ∃ s', run byteSessions (newAndRestart ++ [.removeSessionCallback ⟨7, "a"⟩]) = .ok s' ∧
        ∀ later, getSSLSession byteSessions "a" later s' = none :=
  (Ends.exists_ok (Q := fun s => getSSLSession byteSessions "a" 1 s = some ⟨7, "a"⟩) (by decide)).imp
    fun s ⟨done, found⟩ =>
      ⟨done, found, removeSessionCallback_removes_found byteSessions newAndRestart s "a" 1 ⟨7, "a"⟩ done found⟩

end results

end Wangle.Proof.Client
