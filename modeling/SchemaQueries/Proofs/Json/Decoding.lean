import SchemaQueries.Config
import SchemaQueries.Proofs.Introspection.Loaded
import SchemaQueries.Proofs.Json.Counterparts
import SchemaQueries.Proofs.Json.FirstValue

/-!
# What is decoded is the first value

The answer of an endpoint and a config file are decoded up to the end of the JSON value at their start.
That there is nothing behind it is not checked.

## Main definitions

* `Json.Decodes` — a text that is taken for an answer with a schema or for a config.

## Main results

* `Json.isDocument_iff_of_decodes` — such a text starts with a JSON value, nothing behind that value
  matters, and the text is a JSON document exactly if only white space stands there.
* `Json.exists_decodes_not_isDocument` — texts that are taken, and are no documents.
-/

set_option autoImplicit false
set_option relaxedAutoImplicit false

namespace SchemaQueries

open Json (Thorough thorough_readList thorough_readMap thorough_readOption thorough_readRecord
  thorough_readString thorough_readTagged thorough_readWord)
open Steps (bind_eq_ok_iff)

/-! ### Configs -/

/-- A profile that is read has no fault. -/
theorem Profile.thorough_reader : Thorough Profile.reader := by
  intro room d profile h
  obtain ⟨content, hcontent, -⟩ := bind_eq_ok_iff.mp h
  exact thorough_readTagged room d content hcontent

/-- So it is with each member of a config. -/
theorem Config.thorough_form (room : Nat) : (Config.form room).Thorough := by
  refine ⟨?_, ?_, ?_, ?_, trivial⟩
  · exact thorough_readOption (thorough_readMap Profile.thorough_reader) room
  · exact thorough_readOption thorough_readString room
  · exact thorough_readOption thorough_readString room
  · exact thorough_readOption thorough_readWord room

/-- A config that is read is a record without a fault. -/
theorem Config.exists_readRecord {room : Nat} {d : Json.Draft} {config : Config}
    (h : Config.reader room d = .ok config) : ∃ values,
      Json.readRecord (.record "CodegenJsonConfig") .lenient Config.form room d = .ok values := by
  obtain ⟨values, hvalues, -⟩ := bind_eq_ok_iff.mp h
  exact ⟨values, hvalues⟩

/-! ### Answers -/

namespace Introspection

/-- A type that is read has no fault. -/
theorem thorough_readType : Thorough readType := by
  intro room d type h
  obtain ⟨content, hcontent, -⟩ := bind_eq_ok_iff.mp h
  exact thorough_readTagged room d content hcontent

/-- Nor has a schema. -/
theorem thorough_readSchema : Thorough readSchema := by
  intro room d types h
  obtain ⟨values, hvalues, -⟩ := bind_eq_ok_iff.mp h
  refine thorough_readRecord (fun room => ?_) room d values hvalues
  exact Json.Form.thorough_single (thorough_readList thorough_readType room)

/-- Nor have the data of an answer. -/
theorem thorough_readData : Thorough readData := by
  intro room d types h
  obtain ⟨values, hvalues, -⟩ := bind_eq_ok_iff.mp h
  refine thorough_readRecord (fun room => ?_) room d values hvalues
  exact Json.Form.thorough_single (thorough_readSchema room)

/-- Nor has an error that an answer reports. -/
theorem thorough_readErrorMessage : Thorough readErrorMessage := by
  intro room d message h
  obtain ⟨values, hvalues, -⟩ := bind_eq_ok_iff.mp h
  refine thorough_readRecord (fun room => ?_) room d values hvalues
  exact Json.Form.thorough_single (thorough_readString room)

/-- So it is with each member of an answer. -/
theorem thorough_responseForm (room : Nat) : (responseForm room).Thorough := by
  refine ⟨?_, ?_, trivial⟩
  · exact thorough_readOption thorough_readData room
  · exact thorough_readList thorough_readErrorMessage room

/-- An answer with a schema is a record. -/
theorem exists_readRecord {text : List Char} {document : Schema.Document}
    (h : read text = .ok document) : ∃ values,
      Json.readRecord (.record "IntrospectionQueryResponse") .lenient responseForm Json.maxNesting
        (Json.draft text) = .ok values := by
  obtain ⟨types, errors, hread, -⟩ := read_eq_ok_iff.mp h
  obtain ⟨values, hvalues, -⟩ := bind_eq_ok_iff.mp hread
  exact ⟨values, hvalues⟩

end Introspection

namespace Json

/-- A record that is read is not a number. -/
theorem not_isNumber_of_readRecord {types : List Type} {title : Title} {strictness : Strictness}
    {form : Nat → Form Draft Failure types} {room : Nat} {d : Draft} {values : Values types}
    (h : readRecord title strictness form room d = .ok values) : ¬ d.IsNumber := by
  cases d with
  | number => cases h
  | null | bool | string | array | object | broken => exact id

/-- The text is taken for an answer with a schema, or for a config. -/
def Decodes (text : List Char) : Prop :=
  (∃ document, Introspection.read text = .ok document) ∨ ∃ config, Config.read text = .ok config

/-- What is taken has no fault, and is not a number. -/
theorem Decodes.draft {text : List Char} (h : Decodes text) :
    (Json.draft text).skipFault? = none ∧ ¬ (Json.draft text).IsNumber := by
  rcases h with ⟨document, h⟩ | ⟨config, h⟩
  · obtain ⟨values, hvalues⟩ := Introspection.exists_readRecord h
    exact ⟨thorough_readRecord Introspection.thorough_responseForm _ _ values hvalues,
      not_isNumber_of_readRecord hvalues⟩
  · obtain ⟨values, hvalues⟩ := Config.exists_readRecord h
    exact ⟨thorough_readRecord Config.thorough_form _ _ values hvalues,
      not_isNumber_of_readRecord hvalues⟩

/-- **What is decoded.** A text that is taken for an answer with a schema or for a config starts, behind
white space, with a JSON value. Whatever stands behind that value, it is decoded in the same way. So a text
that is taken is a JSON document exactly if only white space stands there.

**Proof sketch.** A reader does not go through before the value ends (`Json.thorough_readRecord`), so the
draft of the text has no fault, and the value is the one that ends there
(`Json.exists_isValue_of_draft`). -/
theorem isDocument_iff_of_decodes {text : List Char} (h : Decodes text) :
    ∃ before value rest, Blank before ∧ IsValue value ∧ text = before ++ (value ++ rest) ∧
      (∀ more, Introspection.read (before ++ (value ++ more)) = Introspection.read text ∧
        Config.read (before ++ (value ++ more)) = Config.read text) ∧
      (IsDocument text ↔ Blank rest) := by
  obtain ⟨hfault, hnumber⟩ := h.draft
  obtain ⟨before, value, rest, hbefore, hvalue, htext, hmore, hiff⟩ :=
    exists_isValue_of_draft hfault hnumber
  refine ⟨before, value, rest, hbefore, hvalue, htext, fun more => ⟨?_, ?_⟩, hiff⟩
  · rw [Introspection.read, Introspection.read, Json.read, Json.read, hmore]
  · rw [Config.read, Config.read, Json.read, Json.read, hmore]

/-- An empty config with something behind it. -/
theorem isDocument_iff_of_decodes_config : Decodes "\x7b\x7d x".toList ∧
    ∃ before value rest, Blank before ∧ IsValue value ∧
      "\x7b\x7d x".toList = before ++ (value ++ rest) ∧
      (IsDocument "\x7b\x7d x".toList ↔ Blank rest) := by
  have h : Decodes "\x7b\x7d x".toList := .inr ⟨⟨none, none, none, none⟩, by decide +kernel⟩
  obtain ⟨before, value, rest, hbefore, hvalue, htext, -, hiff⟩ := isDocument_iff_of_decodes h
  exact ⟨h, before, value, rest, hbefore, hvalue, htext, hiff⟩

/-- A config with a stray word behind it is taken, and so is an answer with a second object. -/
theorem exists_decodes_not_isDocument :
    (∃ text config, Config.read text = .ok config ∧ ¬ IsDocument text) ∧
      ∃ text document, Introspection.read text = .ok document ∧ ¬ IsDocument text := by
  constructor
  · refine ⟨"\x7b\x7d x".toList, ⟨none, none, none, none⟩, by decide +kernel, ?_⟩
    exact not_isDocument " x".toList (by decide +kernel) (by decide)
  · let text := "\x7b\"data\":\x7b\"__schema\":\x7b\"types\":[]\x7d\x7d\x7d \x7b\x7d".toList
    have hok : (Introspection.read text).isOk := by decide +kernel
    cases hread : Introspection.read text with
    | error e =>
      rw [hread] at hok
      cases hok
    | ok document =>
      exact ⟨text, document, hread, not_isDocument " \x7b\x7d".toList (by decide +kernel) (by decide)⟩

end Json

end SchemaQueries
