import NwsCpp.GeoJson

/-! The flat records of the service: offices, headlines, products, the glossary and the
names of the kinds of alert. -/

namespace NwsCpp

open Bytes Json

structure OfficeProperties where
  id : Text := []
  name : Text := []
  address : Text := []
  telephone : Text := []
  faxNumber : Text := []
  email : Text := []
  nwsRegion : Text := []
  parentOrg : Text := []
  responsibleCounties : List Text := []

structure HeadlineProperties where
  id : Text := []
  officeId : Text := []
  title : Text := []
  summary : Text := []
  content : Text := []
  link : Text := []
  issuanceTime : Text := []

structure ProductProperties where
  id : Text := []
  wmoCollectiveId : Text := []
  issuingOffice : Text := []
  issuanceTime : Text := []
  productCode : Text := []
  productName : Text := []
  productText : Text := []

structure ProductTypeProperties where
  typeId : Text := []
  typeName : Text := []

structure RadarServerProperties where
  id : Text := []
  host : Text := []

structure GlossaryTerm where
  term : Text := []
  definition : Text := []

structure GlossaryResponse where
  glossary : List GlossaryTerm := []

variable {D : Type*}

section Populate

variable (root : Json D)

def populateOffice (_ : OfficeProperties) : OfficeProperties where
  id := root.getString (ascii "id")
  name := root.getString (ascii "name")
  address := root.getString (ascii "address")
  telephone := root.getString (ascii "telephone")
  faxNumber := root.getString (ascii "faxNumber")
  email := root.getString (ascii "email")
  nwsRegion := root.getString (ascii "nwsRegion")
  parentOrg := root.getString (ascii "parentOrganization")
  responsibleCounties := root.getStringArray (ascii "responsibleCounties")

def populateHeadline (_ : HeadlineProperties) : HeadlineProperties where
  id := root.getString (ascii "id")
  officeId := root.getString (ascii "office")
  title := root.getString (ascii "title")
  summary := root.getString (ascii "summary")
  content := root.getString (ascii "content")
  link := root.getString (ascii "link")
  issuanceTime := root.getString (ascii "issuanceTime")

def populateProduct (_ : ProductProperties) : ProductProperties where
  id := root.getString (ascii "id")
  wmoCollectiveId := root.getString (ascii "wmoCollectiveId")
  issuingOffice := root.getString (ascii "issuingOffice")
  issuanceTime := root.getString (ascii "issuanceTime")
  productCode := root.getString (ascii "productCode")
  productName := root.getString (ascii "productName")
  productText := root.getString (ascii "productText")

def populateProductType (_ : ProductTypeProperties) : ProductTypeProperties where
  typeId := root.getString (ascii "productCode")
  typeName := root.getString (ascii "productName")

def populateRadarServer (_ : RadarServerProperties) : RadarServerProperties where
  id := root.getString (ascii "id")
  host := root.getString (ascii "host")

def readGlossaryTerm (term : Json D) : GlossaryTerm where
  term := term.getString (ascii "term")
  definition := term.getString (ascii "definition")

def populateGlossary (out : GlossaryResponse) : GlossaryResponse where
  glossary := readArray readGlossaryTerm out.glossary root (ascii "glossary")

/-- The names under `eventTypes`. -/
def populateAlertTypes (_ : List Text) : List Text := root.getStringArray (ascii "eventTypes")

end Populate

section Deserialize

variable (parseRoot : Text → Result (Json D))

def deserializeQuantitativeValue :
    Text → QuantitativeValue D → Result Unit × QuantitativeValue D :=
  deserialize parseRoot parseQuantitativeValue {}

def deserializeOfficeProperties : Text → OfficeProperties → Result Unit × OfficeProperties :=
  deserialize parseRoot populateOffice {}

def deserializeHeadlineProperties : Text → HeadlineProperties → Result Unit × HeadlineProperties :=
  deserialize parseRoot populateHeadline {}

def deserializeProductProperties : Text → ProductProperties → Result Unit × ProductProperties :=
  deserialize parseRoot populateProduct {}

def deserializeProductTypeProperties :
    Text → ProductTypeProperties → Result Unit × ProductTypeProperties :=
  deserialize parseRoot populateProductType {}

def deserializeRadarServerProperties :
    Text → RadarServerProperties → Result Unit × RadarServerProperties :=
  deserialize parseRoot populateRadarServer {}

def deserializeGlossaryResponse : Text → GlossaryResponse → Result Unit × GlossaryResponse :=
  deserialize parseRoot populateGlossary {}

/-- The reading at the end of `get_alert_types`. -/
def deserializeAlertTypes : Text → List Text → Result Unit × List Text :=
  deserialize parseRoot populateAlertTypes []

end Deserialize

section Render

def officeKeys : List Text :=
  [ascii "id", ascii "name", ascii "address", ascii "telephone", ascii "faxNumber",
    ascii "email", ascii "nwsRegion", ascii "parentOrganization", ascii "responsibleCounties"]

def renderOffice (p : OfficeProperties) : Json D :=
  .obj [(ascii "id", .str p.id), (ascii "name", .str p.name), (ascii "address", .str p.address),
    (ascii "telephone", .str p.telephone), (ascii "faxNumber", .str p.faxNumber),
    (ascii "email", .str p.email), (ascii "nwsRegion", .str p.nwsRegion),
    (ascii "parentOrganization", .str p.parentOrg),
    (ascii "responsibleCounties", ofTexts p.responsibleCounties)]

theorem reads_office : Reads officeKeys (fun _ => True)
    (fun root : Json D => populateOffice root {}) renderOffice where
  valid _ := trivial
  agree a b h := by simp (disch := decide) only [populateOffice, h.getString, h.getStringArray]
  render p _ := by
    cases p
    simp only [populateOffice, OfficeProperties.mk.injEq]
    exact ⟨getString_of_lookup rfl, getString_of_lookup rfl, getString_of_lookup rfl,
      getString_of_lookup rfl, getString_of_lookup rfl, getString_of_lookup rfl,
      getString_of_lookup rfl, getString_of_lookup rfl, getStringArray_of_lookup rfl⟩

def headlineKeys : List Text :=
  [ascii "id", ascii "office", ascii "title", ascii "summary", ascii "content", ascii "link",
    ascii "issuanceTime"]

def renderHeadline (p : HeadlineProperties) : Json D :=
  .obj [(ascii "id", .str p.id), (ascii "office", .str p.officeId), (ascii "title", .str p.title),
    (ascii "summary", .str p.summary), (ascii "content", .str p.content),
    (ascii "link", .str p.link), (ascii "issuanceTime", .str p.issuanceTime)]

theorem reads_headline : Reads headlineKeys (fun _ => True)
    (fun root : Json D => populateHeadline root {}) renderHeadline where
  valid _ := trivial
  agree a b h := by simp (disch := decide) only [populateHeadline, h.getString]
  render p _ := by
    cases p
    simp only [populateHeadline, HeadlineProperties.mk.injEq]
    exact ⟨getString_of_lookup rfl, getString_of_lookup rfl, getString_of_lookup rfl,
      getString_of_lookup rfl, getString_of_lookup rfl, getString_of_lookup rfl,
      getString_of_lookup rfl⟩

def productKeys : List Text :=
  [ascii "id", ascii "wmoCollectiveId", ascii "issuingOffice", ascii "issuanceTime",
    ascii "productCode", ascii "productName", ascii "productText"]

def renderProduct (p : ProductProperties) : Json D :=
  .obj [(ascii "id", .str p.id), (ascii "wmoCollectiveId", .str p.wmoCollectiveId),
    (ascii "issuingOffice", .str p.issuingOffice), (ascii "issuanceTime", .str p.issuanceTime),
    (ascii "productCode", .str p.productCode), (ascii "productName", .str p.productName),
    (ascii "productText", .str p.productText)]

theorem reads_product : Reads productKeys (fun _ => True)
    (fun root : Json D => populateProduct root {}) renderProduct where
  valid _ := trivial
  agree a b h := by simp (disch := decide) only [populateProduct, h.getString]
  render p _ := by
    cases p
    simp only [populateProduct, ProductProperties.mk.injEq]
    exact ⟨getString_of_lookup rfl, getString_of_lookup rfl, getString_of_lookup rfl,
      getString_of_lookup rfl, getString_of_lookup rfl, getString_of_lookup rfl,
      getString_of_lookup rfl⟩

def productTypeKeys : List Text := [ascii "productCode", ascii "productName"]

def renderProductType (p : ProductTypeProperties) : Json D :=
  .obj [(ascii "productCode", .str p.typeId), (ascii "productName", .str p.typeName)]

theorem reads_productType : Reads productTypeKeys (fun _ => True)
    (fun root : Json D => populateProductType root {}) renderProductType where
  valid _ := trivial
  agree a b h := by simp (disch := decide) only [populateProductType, h.getString]
  render p _ := by
    rw [populateProductType, renderProductType, getString_of_lookup rfl, getString_of_lookup rfl]

def radarServerKeys : List Text := [ascii "id", ascii "host"]

def renderRadarServer (p : RadarServerProperties) : Json D :=
  .obj [(ascii "id", .str p.id), (ascii "host", .str p.host)]

theorem reads_radarServer : Reads radarServerKeys (fun _ => True)
    (fun root : Json D => populateRadarServer root {}) renderRadarServer where
  valid _ := trivial
  agree a b h := by simp (disch := decide) only [populateRadarServer, h.getString]
  render p _ := by
    rw [populateRadarServer, renderRadarServer, getString_of_lookup rfl, getString_of_lookup rfl]

def glossaryTermKeys : List Text := [ascii "term", ascii "definition"]

def renderGlossaryTerm (term : GlossaryTerm) : Json D :=
  .obj [(ascii "term", .str term.term), (ascii "definition", .str term.definition)]

theorem reads_glossaryTerm : Reads glossaryTermKeys (fun _ => True)
    (readGlossaryTerm : Json D → GlossaryTerm) renderGlossaryTerm where
  valid _ := trivial
  agree a b h := by simp (disch := decide) only [readGlossaryTerm, h.getString]
  render term _ := by
    rw [readGlossaryTerm, renderGlossaryTerm, getString_of_lookup rfl, getString_of_lookup rfl]

def glossaryKeys : List Text := ascii "glossary" :: glossaryTermKeys

def renderGlossary (out : GlossaryResponse) : Json D :=
  .obj [(ascii "glossary", .arr (out.glossary.map renderGlossaryTerm))]

theorem reads_glossary : Reads glossaryKeys (fun _ => True)
    (fun root : Json D => populateGlossary root {}) renderGlossary where
  valid _ := trivial
  agree a b h := by
    have hterms := reads_glossaryTerm.agree_readArray (List.subset_cons_self _ _) h []
      (List.mem_cons_self : ascii "glossary" ∈ glossaryKeys)
    simp only [populateGlossary, hterms]
  render out _ := congrArg GlossaryResponse.mk
    (reads_glossaryTerm.render_readArray _ (fun _ _ => trivial) rfl)

def renderAlertTypes (types : List Text) : Json D :=
  .obj [(ascii "eventTypes", ofTexts types)]

theorem reads_alertTypes : Reads [ascii "eventTypes"] (fun _ => True)
    (fun root : Json D => populateAlertTypes root []) renderAlertTypes where
  valid _ := trivial
  agree _ _ h := h.getStringArray List.mem_cons_self
  render _ _ := getStringArray_of_lookup rfl

end Render

section Decode

variable (parseRoot : Text → Result (Json D))

/-- The flat records are got back from the trees that stand for them. -/
theorem records_decode :
    Decodes parseRoot (Agree quantitativeKeys) QuantitativeValid renderQuantitativeValue
        (deserializeQuantitativeValue parseRoot) ∧
      Decodes parseRoot (Agree officeKeys) (fun _ => True) renderOffice
        (deserializeOfficeProperties parseRoot) ∧
      Decodes parseRoot (Agree headlineKeys) (fun _ => True) renderHeadline
        (deserializeHeadlineProperties parseRoot) ∧
      Decodes parseRoot (Agree productKeys) (fun _ => True) renderProduct
        (deserializeProductProperties parseRoot) ∧
      Decodes parseRoot (Agree productTypeKeys) (fun _ => True) renderProductType
        (deserializeProductTypeProperties parseRoot) ∧
      Decodes parseRoot (Agree radarServerKeys) (fun _ => True) renderRadarServer
        (deserializeRadarServerProperties parseRoot) ∧
      Decodes parseRoot (Agree glossaryKeys) (fun _ => True) renderGlossary
        (deserializeGlossaryResponse parseRoot) ∧
      Decodes parseRoot (Agree [ascii "eventTypes"]) (fun _ => True) renderAlertTypes
        (deserializeAlertTypes parseRoot) :=
  ⟨decodes_of_reads parseRoot reads_quantitativeValue, decodes_of_reads parseRoot reads_office,
    decodes_of_reads parseRoot reads_headline, decodes_of_reads parseRoot reads_product,
    decodes_of_reads parseRoot reads_productType, decodes_of_reads parseRoot reads_radarServer,
    decodes_of_reads parseRoot reads_glossary, decodes_of_reads parseRoot reads_alertTypes⟩

end Decode

end NwsCpp
