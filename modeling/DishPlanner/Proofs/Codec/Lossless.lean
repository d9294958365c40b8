import DishPlanner.Json.Decoding
import DishPlanner.Proofs.Json.Spelling

/-!
# Lossless encodings

An encoding is lossless when its decoder takes back every encoded value.  This
is proved along the descriptions of the decoders: for a record from its fields
one by one, for a list from its items.  A lossless encoding whose numbers are
words also survives both text layouts.
-/

namespace DishPlanner

/-! ## Maps from lists -/

namespace OrderedMap

variable {κ α : Type} [LT κ] [DecidableLT κ] [OrderedKey κ]

private theorem mem_entries_foldl_insert {entries : List (κ × α)} {map : OrderedMap κ α}
    {entry : κ × α}
    (hentry : entry ∈ (entries.foldl (fun map entry => map.insert entry.1 entry.2) map).entries) :
    entry ∈ entries ∨ entry ∈ map.entries := by
  induction entries generalizing map with
  | nil => exact .inr hentry
  | cons first entries ih =>
      rcases ih hentry with hrest | hinserted
      · exact .inl (List.mem_cons_of_mem _ hrest)
      · rcases key_mem_of_mem_insertEntry hinserted with rfl | hheld
        · exact .inl List.mem_cons_self
        · exact .inr hheld

/-- The map of a list has no other entries than the list. -/
theorem mem_of_mem_entries_ofList {entries : List (κ × α)} {entry : κ × α}
    (hentry : entry ∈ (ofList entries).entries) : entry ∈ entries := by
  rcases mem_entries_foldl_insert hentry with hlisted | hempty
  · exact hlisted
  · cases hempty

private theorem find?_foldl_insert [DecidableEq κ] {entries : List (κ × α)} {key : κ}
    (hkey : key ∉ entries.map Prod.fst) (map : OrderedMap κ α) :
    (entries.foldl (fun map entry => map.insert entry.1 entry.2) map).find? key =
      map.find? key := by
  induction entries generalizing map with
  | nil => rfl
  | cons first entries ih =>
      rw [List.map_cons, List.mem_cons, not_or] at hkey
      rw [List.foldl_cons, ih hkey.2, find?_insert, if_neg hkey.1]

/-- In the map of a list without repeated keys every entry is found. -/
theorem find?_ofList [DecidableEq κ] {entries : List (κ × α)}
    (hnodup : (entries.map Prod.fst).Nodup) {entry : κ × α} (hentry : entry ∈ entries) :
    (ofList entries).find? entry.1 = some entry.2 := by
  obtain ⟨before, behind, rfl⟩ := List.append_of_mem hentry
  have hkey : entry.1 ∉ behind.map Prod.fst := by
    rw [List.map_append, List.map_cons, List.nodup_append] at hnodup
    exact (List.nodup_cons.mp hnodup.2.1).1
  rw [ofList, List.foldl_append, List.foldl_cons, find?_foldl_insert hkey, find?_insert,
    if_pos rfl]

end OrderedMap

namespace Json

/-! ## Lossless encodings -/

variable {α : Type} {encode : α → Json} {decode : Decoder α} {Fits : α → Prop}

/-- The decoder takes back every encoded value, and the numbers of a value that fits are words. -/
structure Lossless (encode : α → Json) (decode : Decoder α) (Fits : α → Prop) : Prop where
  decode_encode : ∀ value, decode (encode value) = .ok value
  inWords : ∀ value, Fits value → InWords (encode value)

theorem lossless_size : Lossless ofNat toSize (· < wordCount) where
  decode_encode _ := rfl
  inWords _ hfits := .natural hfits

theorem lossless_char : Lossless ofChar toChar fun _ => True where
  decode_encode character := by
    simp only [ofChar, toChar, String.toList_singleton]
  inWords _ _ := .string _

/-- A list is encoded without loss where its items are. -/
theorem Lossless.list (hitems : Lossless encode decode Fits) :
    Lossless (ofList encode) (toList decode) fun items => ∀ item ∈ items, Fits item where
  decode_encode items := by
    rw [ofList, toList]
    induction items with
    | nil => rfl
    | cons item items ih =>
        rw [List.map_cons, List.mapM_cons, hitems.decode_encode, ih]
        rfl
  inWords items hfits := by
    refine .array fun json hjson => ?_
    obtain ⟨item, hitem, rfl⟩ := List.mem_map.mp hjson
    exact hitems.inWords item (hfits item hitem)

/-! ## Records -/

namespace Fields

variable {β : Type}

/-- These members, in declaration order, are the fields of a value. -/
structure Describe (fields : Fields α) (members : List (String × Json)) (value : α) : Prop where
  names_eq : fields.names = members.map Prod.fst
  nodup : (members.map Prod.fst).Nodup
  check_eq : ∀ member ∈ members, fields.check member.1 member.2 = .ok ()
  build_eq : ∀ lookUp : String → Option Json,
    (∀ member ∈ members, lookUp member.1 = some member.2) → fields.build lookUp = .ok value

theorem describe_none (value : α) : (none value).Describe [] value where
  names_eq := rfl
  nodup := .nil
  check_eq _ hmember := nomatch hmember
  build_eq _ _ := rfl

/-- A further field whose decoder takes its member. -/
theorem Describe.andThen {fields : Fields (α → β)} {members : List (String × Json)} {make : α → β}
    (hfields : fields.Describe members make) {name : String}
    (hname : name ∉ members.map Prod.fst) {json : Json} {value : α}
    (hdecode : decode json = .ok value) (missing : Except DecodeError α) :
    (fields.andThen name decode missing).Describe (members ++ [(name, json)]) (make value) where
  names_eq := by
    rw [List.map_append, ← hfields.names_eq]
    rfl
  nodup := by
    rw [List.map_append, List.map_singleton]
    refine List.nodup_append.mpr ⟨hfields.nodup, List.pairwise_singleton _ _, ?_⟩
    intro earlier hearlier last hlast hequal
    rw [hequal, List.mem_singleton.mp hlast] at hearlier
    exact hname hearlier
  check_eq := by
    intro member hmember
    rcases List.mem_append.mp hmember with hearlier | hlast
    · have hother : member.1 ≠ name := by
        rintro rfl
        exact hname (List.mem_map_of_mem hearlier)
      simp only [Fields.andThen, if_neg hother]
      exact hfields.check_eq member hearlier
    · simp only [Fields.andThen, List.mem_singleton.mp hlast, if_true, hdecode]
      rfl
  build_eq := by
    intro lookUp hlookUp
    have hmake := hfields.build_eq lookUp fun member hmember =>
      hlookUp member (List.mem_append_left _ hmember)
    have hvalue := hlookUp (name, json) (List.mem_append_right _ List.mem_cons_self)
    simp only [Fields.andThen, hmake, hvalue, hdecode]
    rfl

/-- A further field with a lossless encoding. -/
theorem Describe.required {fields : Fields (α → β)} {members : List (String × Json)} {make : α → β}
    (hfields : fields.Describe members make) {name : String}
    (hname : name ∉ members.map Prod.fst) (hcodec : Lossless encode decode Fits) (value : α) :
    (fields.required name decode).Describe (members ++ [(name, encode value)]) (make value) :=
  hfields.andThen hname (hcodec.decode_encode value) _

theorem Describe.optional {fields : Fields (α → β)} {members : List (String × Json)} {make : α → β}
    (hfields : fields.Describe members make) {name : String}
    (hname : name ∉ members.map Prod.fst) (hcodec : Lossless encode decode Fits)
    (absent value : α) :
    (fields.optional name decode absent).Describe (members ++ [(name, encode value)])
      (make value) :=
  hfields.andThen hname (hcodec.decode_encode value) _

theorem checkAll_eq_ok {fields : Fields α} {isStrict : Bool} {members : List (String × Json)}
    (hknown : ∀ member ∈ members, member.1 ∈ fields.names)
    (hcheck : ∀ member ∈ members, fields.check member.1 member.2 = .ok ()) :
    fields.checkAll isStrict members = .ok () := by
  induction members with
  | nil => rfl
  | cons member members ih =>
      obtain ⟨hname, hnames⟩ := List.forall_mem_cons.mp hknown
      obtain ⟨hmember, hmembers⟩ := List.forall_mem_cons.mp hcheck
      have hlisted : (isStrict && !fields.names.contains member.1) = false := by
        simp [hname]
      rw [checkAll, hlisted, hmember]
      exact ih hnames hmembers

/-- The object of the fields of a value decodes to this value, whether or not other members are
refused. -/
theorem Describe.decode_object {fields : Fields α} {members : List (String × Json)} {value : α}
    (hfields : fields.Describe members value) (name : String) (isStrict : Bool)
    (tooShort : Expected) :
    fields.decode name isStrict tooShort (.object members) = .ok value := by
  have hknown : ∀ member ∈ (OrderedMap.ofList members).entries, member.1 ∈ fields.names := by
    intro member hmember
    rw [hfields.names_eq]
    exact List.mem_map_of_mem (OrderedMap.mem_of_mem_entries_ofList hmember)
  have hchecked : fields.checkAll isStrict (OrderedMap.ofList members).entries = .ok () :=
    checkAll_eq_ok hknown fun member hmember =>
      hfields.check_eq member (OrderedMap.mem_of_mem_entries_ofList hmember)
  have hbuilt := hfields.build_eq (fun name => (OrderedMap.ofList members).find? name)
    fun member hmember => OrderedMap.find?_ofList hfields.nodup hmember
  simp only [decode, hchecked, hbuilt]
  rfl

end Fields

/-- A record is encoded without loss as the object of its fields. -/
theorem Lossless.record {fields : Fields α} {members : α → List (String × Json)}
    (hfields : ∀ value, fields.Describe (members value) value)
    (hwords : ∀ value, Fits value → ∀ member ∈ members value, InWords member.2) (name : String)
    (isStrict : Bool) (tooShort : Expected) :
    Lossless (fun value => .object (members value)) (fields.decode name isStrict tooShort)
      Fits where
  decode_encode value := (hfields value).decode_object name isStrict tooShort
  inWords value hfits := .object (hwords value hfits)

/-! ## Round trips -/

/-- What a lossless encoding gives a user: values come back from their encoding and from both of
its texts, so no two values share an encoding or a text. -/
structure RoundTrips (encode : α → Json) (decode : Decoder α) (Fits : α → Prop) : Prop where
  decode_encode : ∀ value, decode (encode value) = .ok value
  encode_injective : Function.Injective encode
  decode_compact : ∀ value, Fits value →
    (parse (encode value).compact).map decode = some (.ok value)
  decode_pretty : ∀ value, Fits value →
    (parse (encode value).pretty).map decode = some (.ok value)
  compact_injective : ∀ left right, Fits left → Fits right →
    (encode left).compact = (encode right).compact → left = right
  pretty_injective : ∀ left right, Fits left → Fits right →
    (encode left).pretty = (encode right).pretty → left = right

theorem Lossless.encode_injective (hcodec : Lossless encode decode Fits) :
    Function.Injective encode := by
  intro left right hequal
  have hdecoded := hcodec.decode_encode left
  rw [hequal, hcodec.decode_encode right] at hdecoded
  exact (Except.ok.inj hdecoded).symm

section Layout

-- What holds of one layout holds of the other: all that is used is that it is parsed.
variable {layout : Json → String} (hlayout : ∀ json, InWords json → parse (layout json) = some json)

include hlayout

theorem Lossless.decode_text (hcodec : Lossless encode decode Fits) (value : α)
    (hfits : Fits value) : (parse (layout (encode value))).map decode = some (.ok value) := by
  rw [hlayout _ (hcodec.inWords value hfits), Option.map_some, hcodec.decode_encode]

theorem Lossless.text_injective (hcodec : Lossless encode decode Fits) (left right : α)
    (hleft : Fits left) (hright : Fits right)
    (htext : layout (encode left) = layout (encode right)) : left = right := by
  have hparsed := congrArg parse htext
  rw [hlayout _ (hcodec.inWords left hleft), hlayout _ (hcodec.inWords right hright)] at hparsed
  exact hcodec.encode_injective (Option.some.inj hparsed)

end Layout

theorem Lossless.roundTrips (hcodec : Lossless encode decode Fits) :
    RoundTrips encode decode Fits where
  decode_encode := hcodec.decode_encode
  encode_injective := hcodec.encode_injective
  decode_compact := hcodec.decode_text fun _ => parse_compact
  decode_pretty := hcodec.decode_text fun _ => parse_pretty
  compact_injective := hcodec.text_injective fun _ => parse_compact
  pretty_injective := hcodec.text_injective fun _ => parse_pretty

end Json

end DishPlanner
