import FacetSearch.Interchange.Catalogue
import Mathlib.Data.List.Basic

/-!
# Written models are read back

Reading a written model gives the model back.  So does reading any other document of the
model: one with its fields in another order, with fields among them that no model has, and
without some of the fields that hold their default values.

What reading a field looks at is the first value under its name.  A document of a model
(`Model.Document`) has no other value under that name than the written one, and lacks it only
if there is a default.  So each field is read back by itself, a required one
(`Document.required?_eq`) as well as one with a default value (`Document.optional?_eq`).
-/

namespace FacetSearch

namespace Json

/-! ## Values -/

theorem uint32?_int_toNat (n : UInt32) : uint32? (.int n.toNat) = some n := by
  have hbounds : (0 : Int) ≤ n.toNat ∧ (n.toNat : Int) < UInt32.size := by
    have hlt : n.toNat < UInt32.size := n.toNat_lt
    omega
  rw [uint32?, if_pos hbounds, Int.toNat_natCast, UInt32.ofNat_toNat]

/-- A list is read back if its items are. -/
theorem list?_arr_map {α : Type} {item? : Json → Option α} {toJson : α → Json}
    (hitem : ∀ item, item? (toJson item) = some item) (items : List α) :
    list? item? (.arr (items.map toJson)) = some items := by
  rw [list?]
  induction items with
  | nil => rfl
  | cons item rest ih => rw [List.map_cons, List.mapM_cons, hitem, ih]; rfl

theorem list?_strings (values : List String) : list? string? (strings values) = some values := by
  have hstring : ∀ value, string? (str value) = some value := fun _ => rfl
  exact list?_arr_map hstring values

theorem nullable?_string?_nullableJson (value : Option String) :
    nullable? string? (Catalogue.Model.nullableJson value) = some value := by
  cases value <;> rfl

end Json

namespace Catalogue

open Json

theorem Resource.ofJson?_toJson (resource : Resource) :
    Resource.ofJson? resource.toJson = some resource := by
  obtain ⟨format⟩ := resource
  cases format <;> rfl

/-- One string is told apart from a list of a single one. -/
theorem OneOrMany.ofJson?_toJson (values : OneOrMany String) :
    OneOrMany.ofJson? values.toJson = some values := by
  cases values with
  | one value => rfl
  | many values =>
      have hlist : OneOrMany.ofJson? (strings values) =
          (list? string? (strings values)).map .many := rfl
      rw [OneOrMany.toJson, hlist, list?_strings, Option.map_some]

namespace Model

/-! ## Documents of a model -/

/-- Whether a field may be left out: it has a default value, and the model has that
value. -/
def HoldsDefault (model : Model) : String → Prop
  | "author" => model.author = .many []
  | "tags" => model.tags = []
  | "description" => model.description = ""
  | "dataset" => model.dataset = none
  | "license" => model.license = none
  | "resources" => model.resources = []
  | _ => False

/-- Whether some fields are those of a model, in any order, with other fields among them
and without some that hold their default values. -/
structure Document (model : Model) (fields : List (String × Json)) : Prop where
  /-- Under the name of a field of models stands what the model has there. -/
  mem_toFields : ∀ {name value}, (name, value) ∈ fields → name ∈ fieldNames →
    (name, value) ∈ model.toFields
  /-- Every field that does not hold its default value is there. -/
  mem_of_not_holdsDefault : ∀ {name value}, (name, value) ∈ model.toFields →
    ¬model.HoldsDefault name → (name, value) ∈ fields

namespace Document

variable {model : Model} {fields : List (String × Json)} {name : String} {α : Type} {content : α}
  {value? : Json → Option α}

/-- A field that is found is that of the model. -/
theorem mem_toFields_of_lookup (hdocument : model.Document fields) (hname : name ∈ fieldNames)
    {value : Json} (hlookup : fields.lookup name = some value) :
    (name, value) ∈ model.toFields := by
  obtain ⟨before, after, hfields, -⟩ := List.lookup_eq_some_iff.mp hlookup
  have hmem : (name, value) ∈ fields := by simp [hfields]
  exact hdocument.mem_toFields hmem hname

/-- A field that the model has, and that is not found, holds its default value. -/
theorem holdsDefault_of_lookup (hdocument : model.Document fields) {value : Json}
    (hvalue : (name, value) ∈ model.toFields) (hlookup : fields.lookup name = none) :
    model.HoldsDefault name := by
  by_contra hdefault
  have hmem := hdocument.mem_of_not_holdsDefault hvalue hdefault
  have hother := List.lookup_eq_none_iff.mp hlookup _ hmem
  simp at hother

/-- A required field is read back. -/
theorem required?_eq (hdocument : model.Document fields) (hname : name ∈ fieldNames)
    (hrequired : ¬model.HoldsDefault name) (hwritten : ∃ value, (name, value) ∈ model.toFields)
    (hread : ∀ value, (name, value) ∈ model.toFields → value? value = some content) :
    required? fields name value? = some content := by
  obtain ⟨written, hwritten⟩ := hwritten
  cases hlookup : fields.lookup name with
  | none => exact absurd (hdocument.holdsDefault_of_lookup hwritten hlookup) hrequired
  | some value =>
      rw [required?, hlookup, Option.bind_some]
      exact hread value (hdocument.mem_toFields_of_lookup hname hlookup)

/-- A field with a default value is read back, be it there or not. -/
theorem optional?_eq (hdocument : model.Document fields) (hname : name ∈ fieldNames) {default : α}
    (hdefault : model.HoldsDefault name → default = content)
    (hwritten : model.HoldsDefault name ∨ ∃ value, (name, value) ∈ model.toFields)
    (hread : ∀ value, (name, value) ∈ model.toFields → value? value = some content) :
    optional? fields name default value? = some content := by
  cases hlookup : fields.lookup name with
  | none =>
      have hholds : model.HoldsDefault name := by
        rcases hwritten with hholds | ⟨value, hvalue⟩
        · exact hholds
        · exact hdocument.holdsDefault_of_lookup hvalue hlookup
      rw [optional?, hlookup]
      exact congrArg some (hdefault hholds)
  | some value =>
      rw [optional?, hlookup]
      exact hread value (hdocument.mem_toFields_of_lookup hname hlookup)

/-- Reading a document of a model gives the model. -/
theorem ofFields?_eq (hdocument : model.Document fields) : ofFields? fields = some model := by
  have hname : required? fields "name" string? = some model.name :=
    hdocument.required?_eq (by decide) (by simp [HoldsDefault]) (by simp [toFields])
      (by simp [toFields, string?])
  have hauthor : optional? fields "author" (.many []) OneOrMany.ofJson? = some model.author :=
    hdocument.optional?_eq (by decide) Eq.symm (by simp [toFields])
      (by simp [toFields, OneOrMany.ofJson?_toJson])
  have htags : optional? fields "tags" [] (list? string?) = some model.tags :=
    hdocument.optional?_eq (by decide) Eq.symm (by simp [toFields])
      (by simp [toFields, list?_strings])
  have hdescription : optional? fields "description" "" string? = some model.description :=
    hdocument.optional?_eq (by decide) Eq.symm (by simp [toFields]) (by simp [toFields, string?])
  have harchitecture : required? fields "architecture" string? = some model.architecture :=
    hdocument.required?_eq (by decide) (by simp [HoldsDefault]) (by simp [toFields])
      (by simp [toFields, string?])
  have hscale : required? fields "scale" uint32? = some model.scale :=
    hdocument.required?_eq (by decide) (by simp [HoldsDefault]) (by simp [toFields])
      (by simp [toFields, uint32?_int_toNat])
  have hinput : required? fields "inputChannels" uint32? = some model.inputChannels :=
    hdocument.required?_eq (by decide) (by simp [HoldsDefault]) (by simp [toFields])
      (by simp [toFields, uint32?_int_toNat])
  have houtput : required? fields "outputChannels" uint32? = some model.outputChannels :=
    hdocument.required?_eq (by decide) (by simp [HoldsDefault]) (by simp [toFields])
      (by simp [toFields, uint32?_int_toNat])
  have hdataset : optional? fields "dataset" none (nullable? string?) = some model.dataset := by
    refine hdocument.optional?_eq (by decide) Eq.symm ?_ ?_
    · -- only a data set that there is is written
      cases hdataset : model.dataset <;> simp [HoldsDefault, toFields, hdataset]
    · intro value hvalue
      obtain ⟨dataset, hdataset, rfl⟩ : ∃ dataset, model.dataset = some dataset ∧
          .str dataset = value := by simpa [toFields] using hvalue
      rw [hdataset]
      rfl
  have hlicense : optional? fields "license" none (nullable? string?) = some model.license :=
    hdocument.optional?_eq (by decide) Eq.symm (by simp [toFields])
      (by simp [toFields, nullable?_string?_nullableJson])
  have hresources : optional? fields "resources" [] (list? Resource.ofJson?) =
      some model.resources :=
    hdocument.optional?_eq (by decide) Eq.symm (by simp [toFields])
      (by simp [toFields, list?_arr_map Resource.ofJson?_toJson])
  rw [ofFields?, hname, hauthor, htags, hdescription, harchitecture, hscale, hinput, houtput,
    hdataset, hlicense, hresources]
  rfl

end Document

/-- The fields of a model, but for some that hold their default values, together with
others, are a document of the model, in any order. -/
theorem document_of_perm {model : Model} {omitted : List String}
    {extra fields : List (String × Json)} (homitted : ∀ name ∈ omitted, model.HoldsDefault name)
    (hextra : ∀ field ∈ extra, field.1 ∉ fieldNames)
    (hfields : fields.Perm (model.toFields.filter (·.1 ∉ omitted) ++ extra)) :
    model.Document fields where
  mem_toFields := by
    intro name value hvalue hname
    rcases List.mem_append.mp (hfields.mem_iff.mp hvalue) with hkept | hother
    · exact List.mem_of_mem_filter hkept
    · exact absurd hname (hextra _ hother)
  mem_of_not_holdsDefault := by
    intro name value hvalue hdefault
    have hkept : name ∉ omitted := mt (homitted name) hdefault
    apply hfields.mem_iff.mpr
    exact List.mem_append_left _ (List.mem_filter.mpr ⟨hvalue, decide_eq_true hkept⟩)

/-- **Written models are read back.**  Reading the document that a model is written as
gives the model.  So does reading that document without some of the fields that hold their
default values, with any fields added whose names are not those of a model's fields, and
with all fields in any order. -/
theorem ofJson?_written (model : Model) :
    ofJson? model.toJson = some model ∧
      ∀ (omitted : List String) (extra fields : List (String × Json)),
        (∀ name ∈ omitted, model.HoldsDefault name) →
        (∀ field ∈ extra, field.1 ∉ fieldNames) →
        fields.Perm (model.toFields.filter (·.1 ∉ omitted) ++ extra) →
        ofJson? (.obj fields) = some model := by
  constructor
  · exact Document.ofFields?_eq ⟨fun hvalue _ => hvalue, fun hvalue _ => hvalue⟩
  · intro omitted extra fields homitted hextra hfields
    exact (document_of_perm homitted hextra hfields).ofFields?_eq

/-- A model with one author given by itself and with three fields that hold their default
values, two of which are left out of the document. -/
theorem ofJson?_written_sample :
    ∃ model : Model, model.author = .one "joey" ∧
      (∀ name ∈ ["tags", "license"], model.HoldsDefault name) ∧
      (∀ field ∈ [("sha256", Json.null), ("size", .int 67000000)], field.1 ∉ fieldNames) ∧
      ofJson? (.obj [("sha256", .null), ("size", .int 67000000), ("name", .str "2x-DeJPG"),
        ("author", .str "joey"), ("description", .str ""), ("architecture", .str "ESRGAN"),
        ("scale", .int 2), ("inputChannels", .int 1), ("outputChannels", .int 3),
        ("resources", .arr [.obj [("type", .str "pth")]])]) = some model := by
  let model : Model := ⟨"2x-DeJPG", .one "joey", [], "", "ESRGAN", 2, 1, 3, none, none, [⟨.pth⟩]⟩
  have homitted : ∀ name ∈ ["tags", "license"], model.HoldsDefault name := by
    simp [HoldsDefault, model]
  have hextra : ∀ field ∈ [("sha256", Json.null), ("size", .int 67000000)],
      field.1 ∉ fieldNames := by
    simp [fieldNames]
  have hfields : ([("sha256", Json.null), ("size", .int 67000000)] ++
      model.toFields.filter (·.1 ∉ ["tags", "license"])).Perm _ := List.perm_append_comm
  exact ⟨model, rfl, homitted, hextra, (ofJson?_written model).2 _ _ _ homitted hextra hfields⟩

end Model

end Catalogue

end FacetSearch
