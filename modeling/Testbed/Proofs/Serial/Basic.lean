import Testbed.Proofs.Serial.Rearrangement

namespace Testbed
namespace Json

/-!
# Readers that invert writers

A record is written field by field: a field that is required is always there, one that is optional is left
out when there is nothing to say, and one with a default may be left out when it is empty.  For each kind of
field there is one lemma below which says that what is written of it is read back; it needs a value of the
field to be read back, and that no value is written as null, which would be read as nothing.
-/

/-- Whether a reader gets back what a writer has written and a function has rearranged. -/
structure Inverts (present : Json → Json) (write : α → Json) (read : Json → Option α) : Prop where
  reads (value : α) : read (present (write value)) = some value
  ne_null (value : α) : present (write value) ≠ Json.null

variable {present : Json → Json} {write : α → Json} {read : Json → Option α}

/-! ## Values -/

theorem inverts_string (arranges : Rearranges present) : Inverts present string toString? where
  reads _ := by rw [arranges.string, toString?]
  ne_null _ := by
    rw [arranges.string]
    exact nofun

theorem inverts_bool (arranges : Rearranges present) : Inverts present bool toBool? where
  reads _ := by rw [arranges.bool, toBool?]
  ne_null _ := by
    rw [arranges.bool]
    exact nofun

theorem toNatBelow?_natural {value bound : Nat} (below : value < bound) :
    (natural value).toNatBelow? bound = some value :=
  if_pos below

theorem inverts_port (arranges : Rearranges present) :
    Inverts present (fun number : UInt16 => natural number.toNat) toUInt16? where
  reads number := by
    have whole := toNatBelow?_natural number.toNat_lt
    rw [natural] at whole
    rw [natural, arranges.integer, toUInt16?, UInt16.size, whole, Option.map_some, UInt16.ofNat_toNat]
  ne_null number := by
    rw [natural, arranges.integer]
    exact nofun

theorem inverts_count (arranges : Rearranges present) :
    Inverts present (fun number : UInt32 => natural number.toNat) toUInt32? where
  reads number := by
    have whole := toNatBelow?_natural number.toNat_lt
    rw [natural] at whole
    rw [natural, arranges.integer, toUInt32?, UInt32.size, whole, Option.map_some, UInt32.ofNat_toNat]
  ne_null number := by
    rw [natural, arranges.integer]
    exact nofun

theorem inverts_word (arranges : Rearranges present) :
    Inverts present (fun number : UInt64 => natural number.toNat) toUInt64? where
  reads number := by
    have whole := toNatBelow?_natural number.toNat_lt
    rw [natural] at whole
    rw [natural, arranges.integer, toUInt64?, UInt64.size, whole, Option.map_some, UInt64.ofNat_toNat]
  ne_null number := by
    rw [natural, arranges.integer]
    exact nofun

theorem inverts_int32 (arranges : Rearranges present) :
    Inverts present (fun number : Int32 => integer number.toInt) toInt32? where
  reads number := by
    have within : -(Nat.pow 2 31 : Int) ≤ number.toInt ∧ number.toInt < Nat.pow 2 31 :=
      ⟨number.le_toInt, number.toInt_lt⟩
    rw [arranges.integer, toInt32?, toIntWithin?, if_pos within, Option.map_some, Int32.ofInt_toInt]
  ne_null number := by
    rw [arranges.integer]
    exact nofun

theorem inverts_int64 (arranges : Rearranges present) :
    Inverts present (fun number : Int64 => integer number.toInt) toInt64? where
  reads number := by
    have within : -(Nat.pow 2 63 : Int) ≤ number.toInt ∧ number.toInt < Nat.pow 2 63 :=
      ⟨number.le_toInt, number.toInt_lt⟩
    rw [arranges.integer, toInt64?, toIntWithin?, if_pos within, Option.map_some, Int64.ofInt_toInt]
  ne_null number := by
    rw [arranges.integer]
    exact nofun

theorem inverts_list (arranges : Rearranges present) (inverts : Inverts present write read) :
    Inverts present (ofList write) (toListOf? read) where
  reads values := by
    rw [ofList, arranges.array, toListOf?]
    induction values with
    | nil => rfl
    | cons first rest inductionHypothesis =>
        rw [List.map_cons, List.map_cons, List.mapM_cons, inverts.reads, inductionHypothesis]
        rfl
  ne_null values := by
    rw [ofList, arranges.array]
    exact nofun

theorem inverts_strings (arranges : Rearranges present) : Inverts present strings toStrings? :=
  inverts_list arranges (inverts_string arranges)

theorem inverts_map (arranges : Rearranges present) : Inverts present ofStringMap toStringMap? where
  reads := arranges.toStringMap?_ofStringMap
  ne_null map := by
    rcases arranges.object (haveDistinctNames_entries map).map with ⟨arranged, same, _⟩
    rw [ofStringMap, same]
    intro isNull
    cases isNull

/-- A record is read back if its fields are. -/
theorem inverts_record {members : α → List (String × Option Json)} {names : List String}
    {assemble : List (Option Json) → Option α} (arranges : Rearranges present)
    (named : ∀ value, (members value).map Prod.fst = names) (distinct : names.Nodup)
    (assembles : ∀ value, assemble ((members value).map fun entry => entry.2.map present) = some value) :
    Inverts present (fun value => record (members value))
      (fun document => (fields? names document).bind assemble) where
  reads value := by
    rw [arranges.fields?_record (named value) distinct, Option.bind_some, assembles]
  ne_null value empty := by
    have found := arranges.fields?_record (named value) distinct
    rw [empty] at found
    cases found

/-! ## Fields -/

namespace Inverts

variable {fallback value : α} {isEmpty : Bool}

theorem required (inverts : Inverts present write read) :
    required read ((some (write value)).map present) = some value :=
  inverts.reads value

theorem optional (inverts : Inverts present write read) {value : Option α} :
    optional read ((value.map write).map present) = some value := by
  cases value with
  | none => rfl
  | some content =>
      have full := inverts.reads content
      have apart := inverts.ne_null content
      rw [Option.map_some, Option.map_some]
      cases written : present (write content) with
      | null => exact absurd written apart
      | _ =>
          rw [written] at full
          rw [Json.optional, full]
          · rfl
          · exact nofun

/-- A field with a default may still be written whatever its value. -/
theorem defaulted (inverts : Inverts present write read) :
    defaulted fallback read ((some (write value)).map present) = some value :=
  inverts.reads value

/-- A value that is left out when it is empty is the default that then stands in. -/
theorem defaulted_unlessEmpty (inverts : Inverts present write read)
    (empty : isEmpty = true → value = fallback) :
    Json.defaulted fallback read ((unlessEmpty isEmpty (write value)).map present) = some value := by
  cases isEmpty with
  | true => exact congrArg some (empty rfl).symm
  | false => exact inverts.reads value

theorem defaulted_list {write : List α → Json} {read : Json → Option (List α)} {values : List α}
    (inverts : Inverts present write read) :
    Json.defaulted [] read ((unlessEmpty values.isEmpty (write values)).map present) = some values :=
  inverts.defaulted_unlessEmpty List.isEmpty_iff.mp

theorem defaulted_map {map : StringMap} (arranges : Rearranges present) :
    Json.defaulted .empty toStringMap?
      ((unlessEmpty map.isEmpty (ofStringMap map)).map present) = some map := by
  refine (inverts_map arranges).defaulted_unlessEmpty fun empty => ?_
  cases map
  rw [StringMap.empty, StringMap.mk.injEq]
  exact List.isEmpty_iff.mp empty

theorem defaulted_text {text : String} (arranges : Rearranges present) :
    Json.defaulted "" toString? ((unlessEmpty text.isEmpty (string text)).map present) = some text :=
  (inverts_string arranges).defaulted_unlessEmpty String.isEmpty_iff.mp

end Inverts
end Json
end Testbed
