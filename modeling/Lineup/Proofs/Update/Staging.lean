/-
  Lineup.Proofs.Update.Staging
  ────────────────────────────
  **WHAT A SHADOW HOLDS.**  Taking a text in succeeds exactly if a channel is
  drawn from it and the registry takes that channel in.  So a shadow that took a
  document in without a failure holds the channels of its sessions, in order
  (`takeIn_appended`), and it does so whenever these channels fit beside each
  other (`takeIn_of_fits`).
-/
import Lineup.Proofs.Registry.Fits
import Lineup.Proofs.Extraction.Stages

namespace Lineup

/-! ## §1. One text. -/

namespace Registry

variable {r r' : Registry}

theorem unmarked_of_extractText {text : String} {channelType : ChannelType} {e : Extraction}
    (he : extractText text channelType = .ok e) : unmarked e.channel = e.channel := by
  unfold unmarked
  rw [← used_of_extractText he]

theorem map_unmarked_of_extractText {texts : List String} {channelType : ChannelType}
    {es : List Extraction} (hes : texts.map (extractText · channelType) = es.map .ok) :
    (es.map (·.channel)).map unmarked = es.map (·.channel) := by
  rw [List.map_map]
  apply List.map_congr_left
  intro e he
  -- every channel of the list was drawn from some text
  have hmem : (.ok e : Except ExtractError Extraction) ∈ texts.map (extractText · channelType) :=
    hes ▸ List.mem_map_of_mem he
  obtain ⟨text, -, htext⟩ := List.mem_map.1 hmem
  exact unmarked_of_extractText htext

theorem indexed_emptyLike (r : Registry) : r.emptyLike.Indexed := indexed_empty r.config

theorem packed_emptyLike (r : Registry) : r.emptyLike.Packed := packed_empty r.config

theorem records_emptyLike (r : Registry) : r.emptyLike.records = [] := rfl

theorem Indexed.counted (hr : r.Indexed) : r.counted.Indexed :=
  ((hr.count _).count _).count _

theorem Admits.counted {c : Channel} (ha : r.Admits c) : r.counted.Admits c :=
  ⟨ha.key, ha.room, ha.primary_nodup, ha.primary, ha.feedback_nodup, ha.feedback⟩

theorem addText_eq_ok_iff {text : String} {h : Handle} :
    r.addText text = (.ok h, r') ↔
      ∃ e, extractText text r.channelType = .ok e ∧ r.counted.insert e.channel = (.ok h, r') := by
  unfold extractText
  rcases r.addText_outcome text with ⟨x, hs, hadd⟩ | ⟨s, hs, hadd⟩
  · rw [hs, hadd]
    simp
  · rw [hs, hadd]
    show _ ↔ ∃ e, extractChannel s.view r.channelType = .ok e ∧ _
    rcases r.add_outcome s.view with
      ⟨x, hx, hout⟩ | ⟨e, k, q, he, hins, hout⟩ | ⟨e, x, q, he, hins, hout⟩
    · simp [hx, hout]
    · simp [he, hins, hout]
    · simp [he, hins, hout]

/-- **A text that is taken in adds the channel drawn from it**, behind the
others. -/
theorem Indexed.appended_addText (hr : r.Indexed) (hp : r.Packed) (hroom : r.HasRoom)
    {text : String} {h : Handle} (hok : r.addText text = (.ok h, r')) :
    ∃ e, extractText text r.channelType = .ok e ∧ Appended r r' [e.channel] := by
  obtain ⟨e, he, hins⟩ := addText_eq_ok_iff.1 hok
  have happ := hr.counted.appended_insert hp hroom hins
  rw [unmarked_of_extractText he] at happ
  exact ⟨e, he, happ.indexed, happ.packed, happ.records, happ.config⟩

end Registry

/-! ## §2. All sessions of a document. -/

namespace Coordinator

open Registry

theorem takeIn_cons_of_ok {i : Nat} {r r' : Registry} {text : String} {texts : List String}
    {h : Handle} (hok : r.addText text = (.ok h, r')) :
    takeIn i r (text :: texts) = takeIn (i + 1) r' texts := by
  conv_lhs => unfold takeIn
  rw [hok]

theorem takeIn_cons_of_error {i : Nat} {r r' : Registry} {text : String} {texts : List String}
    {e : RegistryError} (herr : r.addText text = (.error e, r')) :
    takeIn i r (text :: texts) = ((takeIn (i + 1) r' texts).1,
      ⟨i, e⟩ :: (takeIn (i + 1) r' texts).2) := by
  conv_lhs => unfold takeIn
  rw [herr]

/-- **A shadow without failures holds the channels of all sessions.** -/
theorem takeIn_appended {r : Registry} (hr : r.Indexed) (hp : r.Packed)
    (i : Nat) (texts : List String) (hroom : r.RoomFor texts.length)
    (hclean : (takeIn i r texts).2 = []) :
    ∃ es : List Extraction, texts.map (extractText · r.channelType) = es.map .ok ∧
      Appended r (takeIn i r texts).1 (es.map (·.channel)) := by
  induction texts generalizing r i with
  | nil => exact ⟨[], rfl, Appended.refl hr hp⟩
  | cons text texts ih =>
    rcases hadd : r.addText text with ⟨x | h, r'⟩
    · -- a text that is not taken in is a failure
      rw [takeIn_cons_of_error hadd] at hclean
      cases hclean
    · rw [takeIn_cons_of_ok hadd] at hclean ⊢
      rw [List.length_cons] at hroom
      obtain ⟨e, he, happ⟩ := hr.appended_addText hp hroom.hasRoom hadd
      have hsize := happ.size hr.toSeated
      have hmax := happ.maxChannels
      rw [List.length_singleton] at hsize
      have hroom' : r'.RoomFor texts.length := by
        unfold RoomFor at hroom ⊢
        omega
      obtain ⟨es, hes, happ'⟩ := ih happ.indexed happ.packed _ hroom' hclean
      rw [happ.channelType] at hes
      refine ⟨e :: es, ?_, happ.trans happ'⟩
      rw [List.map_cons, List.map_cons, he, hes]

/-- **Sessions whose channels fit are taken in without a failure.** -/
theorem takeIn_of_fits {r : Registry} (hr : r.Indexed) (hp : r.Packed) (i : Nat)
    {texts : List String} {es : List Extraction}
    (hes : texts.map (extractText · r.channelType) = es.map .ok)
    (hf : Fits (r.records ++ es.map (·.channel))) (hmax : r.size + es.length ≤ r.maxChannels)
    (hroom : r.RoomFor es.length) :
    (takeIn i r texts).2 = [] ∧ Appended r (takeIn i r texts).1 (es.map (·.channel)) := by
  induction texts generalizing r i es with
  | nil =>
    cases es with
    | nil => exact ⟨rfl, Appended.refl hr hp⟩
    | cons e es => cases hes
  | cons text texts ih =>
    cases es with
    | nil => cases hes
    | cons e es =>
      rw [List.map_cons, List.map_cons] at hes
      obtain ⟨he, hrest⟩ := List.cons.inj hes
      rw [List.length_cons] at hmax hroom
      rw [List.map_cons] at hf
      -- the first channel fits behind those that are there
      have hadmits := (hf.head.admits hr (by omega)).counted
      obtain ⟨h, r', hins⟩ := hadmits.exists_insert
      have hadd := addText_eq_ok_iff.2 ⟨e, he, hins⟩
      obtain ⟨e', he', happ⟩ := hr.appended_addText hp hroom.hasRoom hadd
      obtain rfl : e' = e := Except.ok.inj (he'.symm.trans he)
      have hsize := happ.size hr.toSeated
      have hmax' := happ.maxChannels
      simp only [List.length_singleton] at hsize
      rw [takeIn_cons_of_ok hadd]
      rw [← happ.channelType] at hrest
      -- and the others fit behind it
      have hnext := ih happ.indexed happ.packed (i + 1) hrest
        (by rw [happ.records, List.append_assoc]; exact hf)
        (by omega) (by unfold RoomFor at hroom ⊢; omega)
      exact ⟨hnext.1, happ.trans hnext.2⟩

end Coordinator

end Lineup
