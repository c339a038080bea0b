/-
  Lineup.Proofs.Extraction.Attributes
  ───────────────────────────────────
  **FINDING ATTRIBUTES IN A CANONICAL STREAM.**  Every attribute that all streams
  have stands under a name of its own, in front of those that only some streams
  have (`Special`).  So a reader that asks for a name finds exactly what was
  written under it.
-/
import Lineup.Channel.Canonical
import Lineup.Extraction.Endpoint

namespace Lineup

open Text

/-! ## §1. Lists of attributes. -/

theorem eq_of_mem_ite {α : Type} {p : Prop} [Decidable p] {a b : α}
    (h : a ∈ if p then [b] else []) : a = b := by
  split at h
  · exact List.mem_singleton.1 h
  · cases h

namespace Attribute

theorem find_append (name : String) (as bs : List Attribute) :
    find name (as ++ bs) = (find name as).or (find name bs) :=
  List.find?_append

theorem find_optional (name other : String) (value : Option String) :
    find name (optionalAttribute other value)
      = if other = name then value.map (valued other) else none := by
  cases value with
  | none =>
    rw [Option.map_none, ite_self]
    rfl
  | some v =>
    by_cases h : other = name
    · simp [optionalAttribute, find, valued, h]
    · simp [optionalAttribute, find, valued, h]

theorem find_singleton (name : String) (a : Attribute) :
    find name [a] = if a.name = name then some a else none := by
  by_cases h : a.name = name
  · simp [find, h]
  · simp [find, h]

theorem valuesOf_append (name : String) (as bs : List Attribute) :
    valuesOf name (as ++ bs) = valuesOf name as ++ valuesOf name bs := by
  unfold valuesOf
  rw [List.filter_append, List.filterMap_append]

theorem valuesOf_optional (name other : String) (value : Option String) :
    valuesOf name (optionalAttribute other value)
      = if other = name then value.toList else [] := by
  cases value with
  | none =>
    rw [Option.toList_none, ite_self]
    rfl
  | some v =>
    by_cases h : other = name
    · simp [optionalAttribute, valuesOf, valued, h]
    · simp [optionalAttribute, valuesOf, valued, h]

theorem find_eq_none {name : String} {as : List Attribute} (h : ∀ a ∈ as, a.name ≠ name) :
    find name as = none := by
  unfold find
  rw [List.find?_eq_none]
  intro a ha
  simpa using h a ha

theorem valuesOf_eq_nil {name : String} {as : List Attribute} (h : ∀ a ∈ as, a.name ≠ name) :
    valuesOf name as = [] := by
  unfold valuesOf
  rw [List.filter_eq_nil_iff.2]
  · rfl
  · intro a ha
    simpa using h a ha

end Attribute

/-! ## §2. The attributes of an endpoint. -/

/-- Attributes that only the parts of a stream have that not every stream has. -/
def Special (as : List Attribute) : Prop :=
  ∀ a ∈ as, a.name ∈ ["rtcp-fb", "rtcp-xr", "rtcp-rsize", "fmtp"]

theorem Special.find_eq_none {as : List Attribute} (h : Special as) {name : String}
    (hname : name ∉ ["rtcp-fb", "rtcp-xr", "rtcp-rsize", "fmtp"]) :
    Attribute.find name as = none := by
  refine Attribute.find_eq_none fun a ha => ?_
  rintro rfl
  exact hname (h a ha)

theorem name_of_mem_optional {name : String} {value : Option String} {a : Attribute}
    (h : a ∈ optionalAttribute name value) : a.name = name := by
  unfold optionalAttribute at h
  rw [Option.mem_toList, Option.map_eq_some_iff] at h
  obtain ⟨v, -, rfl⟩ := h
  rfl

theorem XrSettings.special_attributes (x : XrSettings) : Special x.attributes := by
  intro a ha
  rcases List.mem_append.1 ha with ha | ha
  · rw [name_of_mem_optional ha]
    decide
  · rw [eq_of_mem_ite ha]
    decide

namespace Endpoint

variable {e : Endpoint} {kind : StreamKind} {fbt : Option Ipv4} {behind : List Attribute}

/-- Where an attribute that every stream has stands in a canonical media stream. -/
theorem find_attributes (h : Special behind) {name : String}
    (hname : name ∈ ["rtpmap", "rtcp", "source-filter", "rtcp-per-rcvr-bw", "mid"]) :
    Attribute.find name (e.attributes kind fbt ++ behind)
      = if name = "rtpmap" then
          some (.valued "rtpmap" (e.ptText ++ " " ++ kind.encodingName ++ "/90000"))
        else if name = "rtcp" then (e.rtcpText fbt).map (.valued "rtcp")
        else if name = "source-filter" then
          (e.srcFilter.map fun src =>
            "incl IN IP4 " ++ toString e.addr ++ " " ++ toString src).map (.valued "source-filter")
        else if name = "rtcp-per-rcvr-bw" then
          (e.rtcpBw.perReceiver.map (decimal ·.toNat)).map (.valued "rtcp-per-rcvr-bw")
        else e.mid.map (.valued "mid") := by
  -- none of the directions has one of these names
  have hdir :
      Attribute.find name (e.direction.attributeName?.map Attribute.flag).toList = none := by
    refine Attribute.find_eq_none fun a ha => ?_
    rintro rfl
    simp only [List.mem_cons, List.not_mem_nil, or_false] at hname
    cases hd : e.direction with
    | unset => simp [hd, Direction.attributeName?] at ha
    | _ =>
      simp only [hd, Direction.attributeName?, Option.map_some, Option.toList_some,
        List.mem_singleton] at ha
      subst ha
      simp [Attribute.flag] at hname
  have hbehind : Attribute.find name behind = none := by
    refine h.find_eq_none ?_
    simp only [List.mem_cons, List.not_mem_nil, or_false] at hname
    rcases hname with rfl | rfl | rfl | rfl | rfl
    all_goals decide
  -- what is left are the five lists in between, each under its own name
  unfold attributes
  simp only [Attribute.find_append, Attribute.find_optional, Attribute.find_singleton, hdir,
    hbehind, Option.none_or, Option.or_none, Attribute.valued]
  simp only [List.mem_cons, List.not_mem_nil, or_false] at hname
  rcases hname with rfl | rfl | rfl | rfl | rfl
  all_goals simp

section Values

variable {before : List Bandwidth}

theorem attributeValue_rtpmap (h : Special behind) :
    (e.toMedia kind fbt before behind).body.attributeValue "rtpmap"
      = some (e.ptText ++ " " ++ kind.encodingName ++ "/90000") := by
  show (Attribute.find "rtpmap" (e.attributes kind fbt ++ behind)).bind _ = _
  rw [find_attributes h (by simp)]
  rfl

theorem attributeValue_rtcp (h : Special behind) :
    (e.toMedia kind fbt before behind).body.attributeValue "rtcp" = e.rtcpText fbt := by
  show (Attribute.find "rtcp" (e.attributes kind fbt ++ behind)).bind _ = _
  rw [find_attributes h (by simp)]
  cases e.rtcpText fbt with
  | none => rfl
  | some v => rfl

theorem attributeValue_sourceFilter (h : Special behind) :
    (e.toMedia kind fbt before behind).body.attributeValue "source-filter"
      = e.srcFilter.map fun src =>
        "incl IN IP4 " ++ toString e.addr ++ " " ++ toString src := by
  show (Attribute.find "source-filter" (e.attributes kind fbt ++ behind)).bind _ = _
  rw [find_attributes h (by simp)]
  cases e.srcFilter with
  | none => rfl
  | some v => rfl

theorem attributeValue_perReceiver (h : Special behind) :
    (e.toMedia kind fbt before behind).body.attributeValue "rtcp-per-rcvr-bw"
      = e.rtcpBw.perReceiver.map (decimal ·.toNat) := by
  show (Attribute.find "rtcp-per-rcvr-bw" (e.attributes kind fbt ++ behind)).bind _ = _
  rw [find_attributes h (by simp)]
  cases e.rtcpBw.perReceiver with
  | none => rfl
  | some v => rfl

theorem attributeValue_mid (h : Special behind) :
    (e.toMedia kind fbt before behind).body.attributeValue "mid" = e.mid := by
  show (Attribute.find "mid" (e.attributes kind fbt ++ behind)).bind _ = _
  rw [find_attributes h (by simp)]
  cases e.mid with
  | none => rfl
  | some v => rfl

end Values

theorem not_direction {name : String}
    (h : name ∈ ["rtpmap", "rtcp", "source-filter", "rtcp-per-rcvr-bw", "mid", "rtcp-fb", "rtcp-xr",
      "rtcp-rsize", "fmtp"]) : Direction.ofAttributeName? name = none := by
  simp only [List.mem_cons, List.not_mem_nil, or_false] at h
  rcases h with rfl | rfl | rfl | rfl | rfl | rfl | rfl | rfl | rfl
  all_goals decide

/-- The attributes of an endpoint but for its direction. -/
def ownAttributes (e : Endpoint) (kind : StreamKind) (fbt : Option Ipv4) : List Attribute :=
  [.valued "rtpmap" (e.ptText ++ " " ++ kind.encodingName ++ "/90000")]
    ++ optionalAttribute "rtcp" (e.rtcpText fbt)
    ++ optionalAttribute "source-filter"
      (e.srcFilter.map fun src => "incl IN IP4 " ++ toString e.addr ++ " " ++ toString src)
    ++ optionalAttribute "rtcp-per-rcvr-bw" (e.rtcpBw.perReceiver.map (decimal ·.toNat))
    ++ optionalAttribute "mid" e.mid

theorem attributes_eq (e : Endpoint) (kind : StreamKind) (fbt : Option Ipv4) :
    e.attributes kind fbt
      = (e.direction.attributeName?.map Attribute.flag).toList ++ e.ownAttributes kind fbt := by
  unfold attributes ownAttributes
  simp only [List.append_assoc]

theorem name_of_mem_ownAttributes {a : Attribute} (h : a ∈ e.ownAttributes kind fbt) :
    a.name ∈ ["rtpmap", "rtcp", "source-filter", "rtcp-per-rcvr-bw", "mid"] := by
  unfold ownAttributes at h
  simp only [List.mem_append, List.mem_singleton] at h
  -- all but the first stand there only if the endpoint has a value for them
  rcases h with (((rfl | h) | h) | h) | h
  · exact List.mem_cons_self
  all_goals
    rw [name_of_mem_optional h]
    simp

/-- What every stream has is not special. -/
theorem name_of_mem_attributes {a : Attribute} (h : a ∈ e.attributes kind fbt) :
    a.name ∉ ["rtcp-fb", "rtcp-xr", "rtcp-rsize", "fmtp"] := by
  rw [attributes_eq] at h
  rcases List.mem_append.1 h with h | h
  · cases hd : e.direction with
    | unset => simp [hd, Direction.attributeName?] at h
    | _ =>
      simp only [hd, Direction.attributeName?, Option.map_some, Option.toList_some,
        List.mem_singleton] at h
      rw [h]
      decide
  · have hown := name_of_mem_ownAttributes h
    simp only [List.mem_cons, List.not_mem_nil, or_false] at hown
    rcases hown with hown | hown | hown | hown | hown
    all_goals
      rw [hown]
      decide

theorem valuesOf_toMedia {before : List Bandwidth} {name : String}
    (hname : name ∈ ["rtcp-fb", "rtcp-xr", "rtcp-rsize", "fmtp"]) :
    (e.toMedia kind fbt before behind).body.attributeValues name
      = Attribute.valuesOf name behind := by
  show Attribute.valuesOf name (e.attributes kind fbt ++ behind) = _
  rw [Attribute.valuesOf_append, Attribute.valuesOf_eq_nil, List.nil_append]
  -- the names of an endpoint are others
  rintro a ha rfl
  exact name_of_mem_attributes ha hname

theorem firstAttribute_toMedia {before : List Bandwidth} {name : String}
    (hname : name ∈ ["rtcp-fb", "rtcp-xr", "rtcp-rsize", "fmtp"]) :
    (e.toMedia kind fbt before behind).body.firstAttribute name
      = Attribute.find name behind := by
  show Attribute.find name (e.attributes kind fbt ++ behind) = _
  rw [Attribute.find_append, Attribute.find_eq_none, Option.none_or]
  rintro a ha rfl
  exact name_of_mem_attributes ha hname

/-- The direction of a canonical media stream is that of its endpoint. -/
theorem direction_toMedia (before : List Bandwidth) (h : Special behind) :
    Direction.ofSection (e.toMedia kind fbt before behind).body = e.direction := by
  -- only the first attribute can name a direction
  have hrest : (e.ownAttributes kind fbt ++ behind).findSome?
      (fun a => Direction.ofAttributeName? a.name) = none := by
    rw [List.findSome?_eq_none_iff]
    intro a ha
    refine not_direction ?_
    rcases List.mem_append.1 ha with ha | ha
    · exact List.mem_append_left
        ["rtcp-fb", "rtcp-xr", "rtcp-rsize", "fmtp"] (name_of_mem_ownAttributes ha)
    · exact List.mem_append_right
        ["rtpmap", "rtcp", "source-filter", "rtcp-per-rcvr-bw", "mid"] (h a ha)
  show ((e.attributes kind fbt ++ behind).findSome? _).getD _ = _
  rw [attributes_eq, List.append_assoc, List.findSome?_append, hrest]
  cases e.direction with
  | unset => rfl
  | _ => rfl

end Endpoint

end Lineup
