import PriceBoard.Proofs.Json.Script

/-!
# Finding values in scripts

What a document holds under a name is what is written behind the name where it stands last
(`field?_content`).  So a value can be followed from the place where it is written to the place
where it is looked up.
-/

namespace PriceBoard.Json

/-! ## Items -/

def Items.toList : Items → List Script
  | .last item _ => [item]
  | .cons item _ _ others => item :: others.toList

theorem Items.contents_eq (items : Items) : items.contents = items.toList.map Script.content := by
  match items with
  | .last item gap => rfl
  | .cons item gap afterComma others =>
      rw [Items.contents, Items.contents_eq others, Items.toList, List.map_cons]

/-! ## Fields -/

def Members.toList : Members → List (Spelling × Script)
  | .last name _ _ value _ => [(name.content, value)]
  | .cons name _ _ value _ _ others => (name.content, value) :: others.toList

theorem Members.contents_eq (members : Members) :
    members.contents = members.toList.map fun entry => (entry.1, entry.2.content) := by
  match members with
  | .last name beforeColon afterColon value gap => rfl
  | .cons name beforeColon afterColon value gap afterComma others =>
      rw [Members.contents, Members.contents_eq others, Members.toList, List.map_cons]

/-- Nothing but an object has fields. -/
theorem exists_fields_of_field? {content value : Json} {name : String}
    (hfield : content.field? name = some value) : ∃ fields, content = .object fields := by
  cases content with
  | object fields => exact ⟨fields, rfl⟩
  | _ => cases hfield

theorem memberOrNull_of_field? {fields : Fields} {value : Json} {name : String}
    (hfield : (Json.object fields).field? name = some value) : memberOrNull name fields = value := by
  have hmember : member? name fields = some value := hfield
  rw [memberOrNull, hmember, Option.getD_some]

/-- The value behind the name where it stands last. -/
def Members.field? (members : Members) (name : String) : Option Script :=
  (members.toList.reverse.find? fun entry => entry.1 = .ofText name).map Prod.snd

@[simp] theorem Members.field?_last (name : Quoted) (beforeColon afterColon gap : Gap)
    (value : Script) (text : String) :
    (Members.last name beforeColon afterColon value gap).field? text =
      if name.content = .ofText text then some value else none := by
  by_cases hname : name.content = .ofText text <;> simp [Members.field?, Members.toList, hname]

@[simp] theorem Members.field?_cons (name : Quoted) (beforeColon afterColon gap afterComma : Gap)
    (value : Script) (others : Members) (text : String) :
    (Members.cons name beforeColon afterColon value gap afterComma others).field? text =
      (others.field? text).or (if name.content = .ofText text then some value else none) := by
  rw [Members.field?, Members.toList, List.reverse_cons, List.find?_append, Option.map_or]
  by_cases hname : name.content = .ofText text <;> simp [Members.field?, hname]

/-- The value of a field as it is written; nothing but an object has fields. -/
def Script.field? : Script → String → Option Script
  | .object _ members, name => members.field? name
  | _, _ => none

theorem field?_content (script : Script) (name : String) :
    script.content.field? name = (script.field? name).map Script.content := by
  cases script with
  | object gap members =>
      have hlast := valueAt?_foldl_setEntry Prod.fst (fun entry => Script.content entry.2)
        (Spelling.ofText name) members.toList []
      rw [valueAt?, Option.or_none] at hlast
      simp only [Script.content, Json.field?, Json.fields, member?, Members.contents_eq,
        List.foldl_map, hlast, Script.field?, Members.field?, Option.map_map]
      rfl
  | word word => cases word <;> rfl
  | number literal hreadable =>
      simp only [Script.content, Literal.content, Script.field?]
      split <;> rfl
  | _ => rfl

/-- The fields of an object have distinct names. -/
theorem nodup_names_content (script : Script) : (script.content.fields.map Prod.fst).Nodup := by
  have hset : ∀ (entries : List (Spelling × Json)) (fields : Fields),
      (fields.map Prod.fst).Nodup →
        ((entries.foldl (fun fields entry => setEntry entry.1 entry.2 fields) fields).map
          Prod.fst).Nodup := by
    intro entries
    induction entries with
    | nil => exact fun fields hfields => hfields
    | cons entry others ih => exact fun fields hfields => ih _ (nodup_keys_setEntry hfields)
  cases script with
  | object gap members => exact hset members.contents [] List.nodup_nil
  | word word => cases word <;> exact List.nodup_nil
  | number literal hreadable =>
      simp only [Script.content, Literal.content]
      split <;> exact List.nodup_nil
  | _ => exact List.nodup_nil

end PriceBoard.Json
