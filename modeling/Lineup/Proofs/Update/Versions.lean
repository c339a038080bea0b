/-
  Lineup.Proofs.Update.Versions
  ─────────────────────────────
  **WHICH VERSIONS AN UPDATE HOLDS BACK.**  A committed update takes no primary pair back
  to an older version, nor to other content of the same version.  The session key of a
  channel is not compared: a document that gives a live key another primary pair is
  committed whatever its version is.  So a key stays at its version or goes forward as long
  as its channel keeps its pair, and can go back when the channel moves.

  Main results:
    * `Manager.Reached.run_of_moved` — channels that all move are committed in any version;
    * `Manager.Reached.keys_forward_iff` — so only channels that moved can go back;
    * `Manager.not_keys_forward` — and one of them does.
-/
import Lineup.Proofs.Update.Reload

namespace Lineup.Manager

open Registry

/-! ## §1. Channels that move. -/

/-- **A document that gives each of its channels a new primary pair is committed**, in
whatever versions, if the channels fit beside each other. -/
theorem Reached.run_of_moved {config : RegistryConfig} {m : Manager} (hm : Reached config m)
    {document : String} {es : List Extraction}
    (hes : (Document.sessions document).map (extractText · config.channelType) = es.map .ok)
    (hfits : Fits (es.map (·.channel))) (hmax : es.length ≤ config.maxChannels)
    (hroom : es.length ≤ UInt32.size)
    (hmoved : ∀ c ∈ m.live.records, ∀ e ∈ es, c.primaryDest ≠ e.channel.primaryDest)
    (now : Instant) :
    ∃ next report, Coordinator.run m.live document now = .ok (next, report) ∧
      next.records = (es.map (·.channel)).filter (·.active) := by
  have hsettled := hm.settled
  have htype : m.live.channelType = config.channelType :=
    congrArg RegistryConfig.channelType hsettled.setup
  have hmax' : m.live.maxChannels = config.maxChannels :=
    congrArg RegistryConfig.maxChannels hsettled.setup
  exact Coordinator.run_of_fits hsettled.indexed (htype ▸ hes) hfits (hmax' ▸ hmax) hroom
    (fun c hc e he hdest => absurd hdest (hmoved c hc e he)) now

/-! ## §2. Every committed update. -/

/-- **VERSIONS NEVER GO BACK FOR A PRIMARY PAIR, AND FOR A SESSION KEY ONLY WHERE ITS CHANNEL
MOVED**: between a live registry that updates lead to and its successor, a channel that has
the pair of a live one supersedes it; so every channel supersedes the live one with its key
exactly if those do whose pair has changed. -/
theorem Reached.keys_forward_iff {config : RegistryConfig} {m : Manager} (hm : Reached config m)
    {document : String} {now : Instant} {next : Registry} {report : UpdateReport}
    (hrun : Coordinator.run m.live document now = .ok (next, report)) :
    (∀ c ∈ m.live.channels.map (·.2), ∀ d ∈ next.channels.map (·.2),
      c.primaryDest = d.primaryDest → d.Supersedes c) ∧
    ((∀ c ∈ m.live.channels.map (·.2), ∀ d ∈ next.channels.map (·.2),
        c.key = d.key → d.Supersedes c) ↔
      ∀ c ∈ m.live.channels.map (·.2), ∀ d ∈ next.channels.map (·.2),
        c.key = d.key → c.primaryDest ≠ d.primaryDest → d.Supersedes c) := by
  obtain ⟨-, hforward, -, -, hrecords⟩ := Coordinator.indexed_of_run hm.settled.indexed hrun
  have hpair : ∀ c ∈ m.live.records, ∀ d ∈ next.records,
      c.primaryDest = d.primaryDest → d.Supersedes c := by
    intro c hc d hd hdest
    rw [hrecords] at hd
    obtain ⟨x, hx, rfl⟩ := List.mem_map.1 hd
    -- a mark changes neither the pair nor the version nor the fingerprint
    exact hforward c hc x (List.mem_filter.1 hx).1 hdest
  refine ⟨hpair, fun hall c hc d hd hkey _ => hall c hc d hd hkey, fun hall c hc d hd hkey => ?_⟩
  by_cases hdest : c.primaryDest = d.primaryDest
  · exact hpair c hc d hd hdest
  · exact hall c hc d hd hkey hdest

/-! ## §3. A key that goes back. -/

/-- The announcement of a broadcast, in some version and on some group. -/
def newsLines (version group : String) : List (List Char) :=
  ["v=0".toList, "o=- 1 ".toList ++ version.toList ++ " IN IP4 10.0.0.1".toList, "s=News".toList,
    "t=0 0".toList, "m=video 5000 RTP/AVP 33".toList, "c=IN IP4 ".toList ++ group.toList,
    "b=AS:4000".toList, "a=sendonly".toList]

/-- The text of such an announcement. -/
def newsText (version group : String) : String := .ofList (Document.unlines (newsLines version group))

/-- What is drawn from such an announcement. -/
def IsNews (version : UInt64) (addr : Ipv4) (c : Channel) : Prop :=
  c.key = ⟨"-", "1", ⟨10, 0, 0, 1⟩⟩ ∧ c.version = version ∧ c.primaryDest = (addr, 5000) ∧
    c.active = true ∧ Claimable c

instance (version : UInt64) (addr : Ipv4) : DecidablePred (IsNews version addr) :=
  fun c => inferInstanceAs (Decidable (c.key = _ ∧ c.version = version ∧ _))

/-- One session, of which such a channel is drawn. -/
structure Announces (document : String) (version : UInt64) (addr : Ipv4) (e : Extraction) :
    Prop where
  sessions : Document.sessions document = [document]
  drawn : extractText document .linear = .ok e
  news : IsNews version addr e.channel

theorem exists_announces {version group : String} {v : UInt64} {addr : Ipv4}
    (hsessions : Document.sessionTexts (Document.unlines (newsLines version group))
      = [Document.unlines (newsLines version group)])
    (hnews : ((extractText (newsText version group) .linear).toOption.any fun e =>
      decide (IsNews v addr e.channel)) = true) :
    ∃ e, Announces (newsText version group) v addr e := by
  obtain ⟨e, he, hnews⟩ := exists_ok_of_any hnews
  refine ⟨e, ?_, he, hnews⟩
  rw [newsText, Document.sessions_ofList, hsessions, List.map_singleton]

/-- Such a document is committed wherever no live channel has its primary pair. -/
theorem Reached.run_of_announces {m : Manager} (hm : Reached .standard m) {document : String}
    {version : UInt64} {addr : Ipv4} {e : Extraction} (he : Announces document version addr e)
    (hmoved : ∀ c ∈ m.live.records, c.primaryDest ≠ (addr, 5000)) :
    ∃ next report, Coordinator.run m.live document ⟨0, 0⟩ = .ok (next, report) ∧
      next.records = [e.channel] := by
  obtain ⟨hsessions, hdrawn, -, -, hdest, hactive, hclaimable⟩ := he
  have hes : (Document.sessions document).map
      (extractText · RegistryConfig.standard.channelType) = [e].map .ok := by
    rw [hsessions, List.map_singleton, List.map_singleton]
    exact congrArg (· :: []) hdrawn
  obtain ⟨next, report, hrun, hrecords⟩ := hm.run_of_moved hes
    (fits_singleton hclaimable) (by show 1 ≤ 1000; decide)
    (by show 1 ≤ UInt32.size; decide) (fun c hc x hx => by
      rw [List.mem_singleton.1 hx, hdest]
      exact hmoved c hc) ⟨0, 0⟩
  refine ⟨next, report, hrun, ?_⟩
  rw [hrecords]
  simp [hactive]

/-- What is live in version 9 is announced in version 2 on another group; both announcements are
committed. -/
theorem exists_news :
    ∃ live report next report', ∃ c d : Channel,
      Coordinator.run (.empty .standard) (newsText "9" "239.0.0.1/64") ⟨0, 0⟩ = .ok (live, report) ∧
      Coordinator.run live (newsText "2" "239.0.0.2/64") ⟨0, 0⟩ = .ok (next, report') ∧
      (live.records = [c] ∧ IsNews 9 ⟨239, 0, 0, 1⟩ c) ∧
      (next.records = [d] ∧ IsNews 2 ⟨239, 0, 0, 2⟩ d) := by
  obtain ⟨e, he⟩ : ∃ e, Announces (newsText "9" "239.0.0.1/64") 9 ⟨239, 0, 0, 1⟩ e :=
    exists_announces (by decide +kernel) (by rw [newsText, extractText_ofList]; decide +kernel)
  obtain ⟨e', he'⟩ : ∃ e, Announces (newsText "2" "239.0.0.2/64") 2 ⟨239, 0, 0, 2⟩ e :=
    exists_announces (by decide +kernel) (by rw [newsText, extractText_ofList]; decide +kernel)
  have hempty : Reached .standard (.empty .standard) := .empty
  obtain ⟨live, report, hrun, hlive⟩ := hempty.run_of_announces he (by intro c hc; cases hc)
  have hreached : Reached .standard _ := .apply (newsText "9" "239.0.0.1/64") ⟨0, 0⟩ hempty
  rw [apply_of_ok (m := .empty .standard) hrun] at hreached
  obtain ⟨next, report', hrun', hnext⟩ := hreached.run_of_announces he' (by
    intro c hc
    rw [show c = e.channel from List.mem_singleton.1 (hlive ▸ hc), he.news.2.2.1]
    decide)
  exact ⟨live, report, next, report', _, _, hrun, hrun', ⟨hlive, he.news⟩, hnext, he'.news⟩

/-- So a key goes back with its channel. -/
theorem exists_moved_back :
    ∃ m next report, Reached .standard m ∧
      Coordinator.run m.live (newsText "2" "239.0.0.2/64") ⟨0, 0⟩ = .ok (next, report) ∧
      ∃ c ∈ m.live.channels.map (·.2), ∃ d ∈ next.channels.map (·.2),
        c.key = d.key ∧ c.primaryDest ≠ d.primaryDest ∧ ¬d.Supersedes c := by
  obtain ⟨live, report, next, report', c, d, hrun, hrun', ⟨hlive, hkey, hversion, hdest, -⟩,
    hnext, hkey', hversion', hdest', -⟩ := exists_news
  have hreached : Reached .standard _ := .apply (newsText "9" "239.0.0.1/64") ⟨0, 0⟩ .empty
  rw [apply_of_ok (m := .empty .standard) hrun] at hreached
  refine ⟨_, next, report', hreached, hrun', c, ?_, d, ?_, ?_, ?_, ?_⟩
  · show c ∈ live.records
    rw [hlive]
    exact List.mem_singleton_self _
  · show d ∈ next.records
    rw [hnext]
    exact List.mem_singleton_self _
  · rw [hkey, hkey']
  · rw [hdest, hdest']
    decide
  · rintro (hlt | ⟨heq, -⟩)
    · rw [hversion, hversion'] at hlt
      exact absurd hlt (by decide)
    · rw [hversion, hversion'] at heq
      exact absurd heq (by decide)

/-- The condition fails for that key, so the law of keys does. -/
theorem Reached.keys_forward_iff_moved :
    ∃ m next report, Reached .standard m ∧
      Coordinator.run m.live (newsText "2" "239.0.0.2/64") ⟨0, 0⟩ = .ok (next, report) ∧
      (∀ c ∈ m.live.channels.map (·.2), ∀ d ∈ next.channels.map (·.2),
        c.primaryDest = d.primaryDest → d.Supersedes c) ∧
      ¬∀ c ∈ m.live.channels.map (·.2), ∀ d ∈ next.channels.map (·.2),
        c.key = d.key → d.Supersedes c := by
  obtain ⟨m, next, report, hm, hrun, c, hc, d, hd, hkey, hdest, hback⟩ := exists_moved_back
  obtain ⟨hpair, hiff⟩ := hm.keys_forward_iff hrun
  exact ⟨m, next, report, hm, hrun, hpair, fun hall => hback (hiff.1 hall c hc d hd hkey hdest)⟩

/-- Versions do go back for a session key. -/
theorem not_keys_forward :
    ¬∀ (config : RegistryConfig) (m : Manager) (document : String) (now : Instant)
      (next : Registry) (report : UpdateReport), Reached config m →
      Coordinator.run m.live document now = .ok (next, report) →
      ∀ c ∈ m.live.channels.map (·.2), ∀ d ∈ next.channels.map (·.2),
        c.key = d.key → d.Supersedes c := by
  intro hall
  obtain ⟨m, next, report, hm, hrun, c, hc, d, hd, hkey, -, hback⟩ := exists_moved_back
  exact hback (hall _ m _ _ next report hm hrun c hc d hd hkey)

end Lineup.Manager
