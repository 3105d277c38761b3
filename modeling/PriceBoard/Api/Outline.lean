import PriceBoard.Json.Value

/-!
# The outline of the calls

Clients can ask for a document about the calls themselves: which there are, what they take and what
they answer.  It is written in the vocabulary of the OpenAPI specification, version 3.1.
-/

namespace PriceBoard.Api

/-! ## Schemas -/

/-- An object with the fields. -/
def outlineObject (fields : List (String × Json)) : Json :=
  .object (Json.named fields)

/-- A schema: its type and its title, and what else it says. -/
def schema (kind title : String) (others : List (String × Json)) : Json :=
  outlineObject ([("type", .ofText kind), ("title", .ofText title)] ++ others)

/-- The schema of a text. -/
def textSchema (title : String) : Json :=
  schema "string" title []

/-- A reference to the schema with the name. -/
def schemaReference (name : String) : Json :=
  outlineObject [("$ref", .ofText ("#/components/schemas/" ++ name))]

/-- The schema of a list. -/
def listSchema (title : String) (item : Json) : Json :=
  schema "array" title [("items", item)]

/-- The schema of an object with properties, some of which are required. -/
def objectSchema (title : String) (properties : List (String × Json)) (required : List String) :
    Json :=
  schema "object" title
    (("properties", outlineObject properties) ::
      if required.isEmpty then [] else [("required", .array (required.map .ofText))])

/-- The name of the schema of an asset. -/
def assetSchemaName : String :=
  "AssetSpecifier"

/-- The name of the schema of all issues of a call. -/
def issuesSchemaName : String :=
  "HTTPValidationError"

/-- The name of the schema of one issue. -/
def issueSchemaName : String :=
  "ValidationError"

/-- The schema of a step in the path of an issue. -/
def stepSchema : Json :=
  outlineObject [("anyOf",
    .array (["string", "integer"].map fun kind => outlineObject [("type", .ofText kind)]))]

/-- The schemas that others refer to. -/
def namedSchemas : Json :=
  outlineObject
    [(assetSchemaName,
        objectSchema assetSchemaName
          [("blockchain", textSchema "Blockchain"), ("symbol", textSchema "Symbol")]
          ["blockchain", "symbol"]),
      (issuesSchemaName,
        objectSchema issuesSchemaName
          [("detail", listSchema "Detail" (schemaReference issueSchemaName))] []),
      (issueSchemaName,
        objectSchema issueSchemaName
          [("loc", listSchema "Location" stepSchema),
            ("msg", textSchema "Message"),
            ("type", textSchema "Error Type"),
            ("input", outlineObject [("title", .ofText "Input")]),
            ("ctx", schema "object" "Context" [])]
          ["loc", "msg", "type"])]

/-! ## Calls -/

/-- Content that has the schema. -/
def contentOf (content : Json) : Json :=
  outlineObject [("application/json", outlineObject [("schema", content)])]

/-- An answer that has the schema. -/
def answerOutline (description : String) (content : Json) : Json :=
  outlineObject [("description", .ofText description), ("content", contentOf content)]

/-- The answer to a call that succeeds. -/
def successOutline : String × Json :=
  ("200", answerOutline "Successful Response" (outlineObject []))

/-- The answer to a call whose data do not pass their checks. -/
def issuesOutline : String × Json :=
  ("422", answerOutline "Validation Error" (schemaReference issuesSchemaName))

/-- A kind of calls: what it is called, what else it takes and what it answers. -/
def callOutline (summary name : String) (takes : List (String × Json))
    (answers : List (String × Json)) : Json :=
  outlineObject ([("summary", .ofText summary), ("operationId", .ofText name),
    ("responses", outlineObject answers)] ++ takes)

/-- The parameter that names assets. -/
def assetsParameter : String :=
  "currencies"

/-- The outline of a call for records of named assets. -/
def getOutline : Json :=
  callOutline "Get Currencies" "get_currencies_v1_currencies_get"
    [("parameters", .array [outlineObject
      [("name", .ofText assetsParameter), ("in", .ofText "query"), ("required", .bool true),
        ("schema", textSchema "Currencies")]])]
    [successOutline, issuesOutline]

/-- The outline of a call for records of posted assets. -/
def postOutline : Json :=
  callOutline "Post Currencies" "post_currencies_v1_currencies_post"
    [("requestBody", outlineObject
      [("required", .bool true),
        ("content", contentOf (listSchema "Specs" (schemaReference assetSchemaName)))])]
    [successOutline, issuesOutline]

/-- The outline of a call for figures. -/
def metricsOutline : Json :=
  callOutline "Updater Metrics" "updater_metrics_v1_metrics_updater_get" [] [successOutline]

/-! ## The document -/

/-- The document about the calls. -/
def outline : Json :=
  outlineObject
    [("openapi", .ofText "3.1.0"),
      ("info", outlineObject
        [("title", .ofText "Price Batching Server"), ("version", .ofText "0.1.0")]),
      ("paths", outlineObject
        [("/v1/currencies", outlineObject [("get", getOutline), ("post", postOutline)]),
          ("/v1/metrics/updater", outlineObject [("get", metricsOutline)])]),
      ("components", outlineObject [("schemas", namedSchemas)])]

end PriceBoard.Api
