/-
  Lineup.Proofs.Session.Written
  ─────────────────────────────
  **EVERY SESSION THAT WAS READ CAN BE WRITTEN.**  A reader trims the value of each
  line and splits it into fields, so what it yields is printable and trimmed
  already (`Neat`).  Each line keeps this of the draft it is added to; so it holds
  of every session at the end.

  Main results:
    * `Session.neat_of_ofText` — a session that was read is printable and trimmed;
    * `Session.ofText_toText_of_ofText` — so it reads back from its printed text as
      it was.
-/
import Lineup.Proofs.Session.Reading
import Lineup.Proofs.Session.Steps
import Lineup.Document.Sessions

namespace Lineup

open Text

/-! ## §1. Neat values. -/

/-- A text that stays on its line and has no white space at its ends. -/
def NeatText (s : String) : Prop := Inline s ∧ trimmed s = s

/-- A printable section with trimmed values. -/
def Section.Neat (s : Section) : Prop := s.Printable ∧ s.tidy = s

/-- A printable media stream with trimmed values. -/
def Media.Neat (m : Media) : Prop := m.Printable ∧ m.tidy = m

/-- A printable session with trimmed values. -/
def Session.Neat (s : Session) : Prop := s.Printable ∧ s.tidy = s

theorem neatText_trimmed {s : String} (h : Inline s) : NeatText (trimmed s) := by
  unfold NeatText Inline trimmed
  rw [String.toList_ofList, trim_trim]
  exact ⟨fun c hc => h c (mem_of_mem_trim hc), rfl⟩

theorem Section.neat_empty : Section.empty.Neat := by
  refine ⟨⟨?_, ?_, ?_, ?_⟩, rfl⟩
  · intro i hi
    cases hi
  · intro c hc
    cases hc
  · intro b hb
    cases hb
  · intro a ha
    cases ha

/-! ## §2. One line. -/

theorem Line.neat_of_read? {cs rest : List Char} {l : Line} (h : read? cs = some (l, rest)) :
    NeatText l.value := by
  unfold read? at h
  split at h
  · next key cs =>
    dsimp only at h
    rw [Option.ite_none_right_eq_some] at h
    obtain ⟨rfl, -⟩ := Prod.mk.inj (Option.some.inj h.2)
    -- what is taken stops at the first ending
    have hinline : Inline (String.ofList (cs.takeWhile (!isEnding ·))) := by
      intro c hc
      rw [String.toList_ofList] at hc
      have := List.mem_takeWhile_imp hc
      rwa [Bool.not_eq_true', isEnding_eq_false_iff] at this
    have hneat := neatText_trimmed hinline
    unfold trimmed at hneat
    rwa [String.toList_ofList] at hneat
  · cases h

theorem Section.Step.neat {s s' : Section} {l : Line} (hs : s.Neat) (hl : NeatText l.value)
    (h : s.Step l s') : s'.Neat := by
  obtain ⟨hp, ht⟩ := hs
  unfold tidy at ht
  have hinfo : s.information.map trimmed = s.information := congrArg Section.information ht
  have hattr : s.attributes.map Attribute.tidy = s.attributes := congrArg Section.attributes ht
  cases h with
  | setsInformation =>
    refine ⟨⟨?_, hp.connection, hp.bandwidths, hp.attributes⟩, ?_⟩
    · rintro i hi
      obtain rfl := Option.some.inj hi
      exact hl.1
    · unfold tidy
      rw [hattr, Option.map_some, hl.2]
  | setsConnection hc =>
    refine ⟨⟨hp.information, ?_, hp.bandwidths, hp.attributes⟩, ?_⟩
    · rintro d hd
      obtain rfl := Option.some.inj hd
      exact Connection.printable_of_ofChars? hc
    · unfold tidy
      rw [hattr, hinfo]
  | addsBandwidth hb =>
    refine ⟨⟨hp.information, hp.connection, ?_, hp.attributes⟩, ?_⟩
    · intro d hd
      rcases List.mem_append.1 hd with hd | hd
      · exact hp.bandwidths d hd
      · obtain rfl := List.mem_singleton.1 hd
        exact Bandwidth.printable_of_ofChars? hb
    · unfold tidy
      rw [hattr, hinfo]
  | addsAttribute ha =>
    obtain ⟨hprint, htidy⟩ := Attribute.printable_of_ofChars? hl.1 ha
    refine ⟨⟨hp.information, hp.connection, hp.bandwidths, ?_⟩, ?_⟩
    · intro d hd
      rcases List.mem_append.1 hd with hd | hd
      · exact hp.attributes d hd
      · obtain rfl := List.mem_singleton.1 hd
        exact hprint
    · unfold tidy
      rw [hinfo, List.map_append, hattr, List.map_singleton, htidy]
  | passesOver => exact ⟨hp, ht⟩

/-! ## §3. Drafts. -/

/-- A draft that has only neat parts. -/
inductive Draft.Neat : Draft → Prop where
  | start : Neat .start
  | versioned : Neat .versioned
  | announced {origin : Origin} : origin.Printable → Neat (.announced origin)
  | header {origin : Origin} {name : String} {timing : Option Timing} {body : Section} :
      origin.Printable → NeatText name → body.Neat → Neat (.header origin name timing body)
  | media {origin : Origin} {name : String} {timing : Timing} {body : Section}
      {done : List Media} {current : Media} :
      origin.Printable → NeatText name → body.Neat → (∀ m ∈ done ++ [current], m.Neat) →
      Neat (.media origin name timing body done current)

theorem Media.neat_of_ofChars? {cs : List Char} {m : Media} (h : ofChars? cs = some m) :
    m.Neat := by
  obtain ⟨hline, hbody⟩ := printable_of_ofChars? h
  refine ⟨⟨hline, ?_⟩, ?_⟩
  · rw [hbody]
    exact Section.neat_empty.1
  · unfold tidy
    rw [hbody, Section.neat_empty.2, ← hbody]

theorem Media.neat_withBody {m : Media} {body : Section} (hm : m.Neat) (hbody : body.Neat) :
    ({ m with body := body } : Media).Neat := by
  refine ⟨⟨?_, hbody.1⟩, ?_⟩
  · obtain ⟨hmedia, hprotocol, hformats, hsome⟩ := hm.1.line
    exact ⟨hmedia, hprotocol, hformats, hsome⟩
  · unfold tidy
    rw [hbody.2]

theorem Media.Neat.body {m : Media} (hm : m.Neat) : m.body.Neat :=
  ⟨hm.1.body, congrArg Media.body hm.2⟩

theorem Session.Neat.name {s : Session} (hs : s.Neat) : NeatText s.name :=
  ⟨hs.1.name, congrArg Session.name hs.2⟩

theorem Session.Neat.media {s : Session} (hs : s.Neat) {m : Media} (hm : m ∈ s.media) :
    m.Neat := by
  have hall : s.media.map Media.tidy = s.media := congrArg Session.media hs.2
  exact ⟨hs.1.media m hm, List.map_inj_left.1 (hall.trans (List.map_id _).symm) m hm⟩

theorem Draft.Step.neat {d d' : Draft} {l : Line} (hd : d.Neat) (hl : NeatText l.value)
    (h : d.Step l d') : d'.Neat := by
  cases h with
  | version => exact .versioned
  | origin ho => exact .announced (Origin.printable_of_ofChars? ho)
  | name =>
    cases hd with
    | announced ho => exact .header ho hl Section.neat_empty
  | timing =>
    cases hd with
    | header ho hn hb => exact .header ho hn hb
  | own hstep =>
    cases hd with
    | header ho hn hb => exact .header ho hn (hstep.neat hb hl)
  | firstMedia hm =>
    cases hd with
    | header ho hn hb =>
      refine .media ho hn hb fun k hk => ?_
      obtain rfl := List.mem_singleton.1 hk
      exact Media.neat_of_ofChars? hm
  | nextMedia hm =>
    cases hd with
    | media ho hn hb hms =>
      refine .media ho hn hb fun k hk => ?_
      rcases List.mem_append.1 hk with hk | hk
      · exact hms k hk
      · obtain rfl := List.mem_singleton.1 hk
        exact Media.neat_of_ofChars? hm
  | ofMedia hstep =>
    cases hd with
    | media ho hn hb hms =>
      have hcurrent := hms _ (List.mem_append_right _ List.mem_cons_self)
      refine .media ho hn hb fun k hk => ?_
      rcases List.mem_append.1 hk with hk | hk
      · exact hms k (List.mem_append_left _ hk)
      · obtain rfl := List.mem_singleton.1 hk
        exact Media.neat_withBody hcurrent (hstep.neat hcurrent.body hl)

theorem Draft.neat_foldlM {d d' : Draft} {ls : List (List Char × Nat)} (hd : d.Neat)
    (h : ls.foldlM read d = .ok d') : d'.Neat := by
  -- every line keeps the draft neat
  induction ls generalizing d with
  | nil =>
    obtain rfl := Except.ok.inj h
    exact hd
  | cons line ls ih =>
    rw [List.foldlM_cons] at h
    obtain ⟨d₁, hread, h⟩ := bind_eq_ok_iff.1 h
    refine ih ?_ h
    unfold read at hread
    split at hread
    · next l rest hline => exact (add_eq_ok_iff.1 hread).neat hd (Line.neat_of_read? hline)
    · cases hread

/-! ## §4. Sessions. -/

/-- **A session that was read is printable and trimmed.** -/
theorem Session.neat_of_ofText {text : String} {s : Session} (h : Session.ofText text = .ok s) :
    s.Neat := by
  obtain ⟨d, hfold, hfinish⟩ := bind_eq_ok_iff.1 h
  have hd := Draft.neat_foldlM .start hfold
  have hall : ∀ {origin : Origin} {name : String} {timing : Timing} {body : Section}
      {media : List Media}, origin.Printable → NeatText name → body.Neat →
      (∀ m ∈ media, m.Neat) → (⟨"0", origin, name, timing, body, media⟩ : Session).Neat := by
    intro origin name timing body media ho hn hb hm
    refine ⟨⟨rfl, ho, hn.1, hb.1, fun m hmem => (hm m hmem).1⟩, ?_⟩
    have hmedia : media.map Media.tidy = media :=
      (List.map_congr_left fun m hmem => (hm m hmem).2).trans (List.map_id _)
    unfold tidy
    rw [hn.2, hb.2, hmedia]
  -- only a draft with a timing can be finished
  cases hd with
  | start => cases hfinish
  | versioned => cases hfinish
  | announced _ => cases hfinish
  | @header origin name timing body ho hn hb =>
    cases timing with
    | none => cases hfinish
    | some t =>
      obtain rfl := Except.ok.inj hfinish
      exact hall ho hn hb (by simp)
  | media ho hn hb hms =>
    obtain rfl := Except.ok.inj hfinish
    exact hall ho hn hb hms

/-- **A session that was read reads back as it was.** -/
theorem Session.ofText_toText_of_ofText {text : String} {s : Session}
    (h : Session.ofText text = .ok s) : Session.ofText s.toText = .ok s := by
  obtain ⟨hprint, htidy⟩ := neat_of_ofText h
  have hread := ofText_toText hprint
  rwa [htidy] at hread

/-- Reading a session from characters. -/
theorem Session.ofText_ofList (cs : List Char) :
    Session.ofText (.ofList cs)
      = (numberedLines cs).foldlM Draft.read .start >>= fun d => d.finish := by
  unfold Session.ofText
  rw [String.toList_ofList]

/-- A session with white space around its values, numbers with leading zeros, a count of
addresses, empty values, a second timing and a line that is passed over. -/
def untidyText : String :=
  .ofList <| Document.unlines <| ["v=0", "o=-\t1  1 IN IP4 10.0.0.1", "", "s= Évening News\u00A0",
    "c=IN IP4 239.0.0.1/064/3", "b=AS:0400", "t=0 0", "t=1 2", "u=ignored", "a=group: ",
    "a=recvonly", "m=video 05000/2 RTP/AVP 33 34", "i=", "a=x:y: z"].map String.toList

/-- It reads back as the session that was read, not as the text. -/
theorem Session.ofText_toText_untidy :
    ∃ s, Session.ofText untidyText = .ok s ∧ s.name = "Évening News" ∧
      Session.ofText s.toText = .ok s := by
  have hname : (Session.ofText untidyText).toOption.map (·.name) = some "Évening News" := by
    rw [untidyText, Session.ofText_ofList]
    decide +kernel
  cases h : Session.ofText untidyText with
  | error e =>
    rw [h] at hname
    cases hname
  | ok s =>
    rw [h] at hname
    exact ⟨s, rfl, Option.some.inj hname, Session.ofText_toText_of_ofText h⟩

end Lineup
