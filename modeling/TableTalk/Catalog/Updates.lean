import TableTalk.Catalog.Basic

/-!
# The update feed

The catalog table of the cloud provider update feed. Provider examples are
recognized as organizations, product examples as products.
-/

namespace TableTalk.Catalog

set_option autoImplicit false

def updates : Table where
  name := "update"
  columns := [
    { name := "id", type := .integer, isPrimaryKey := true },
    { name := "provider", type := .text, examples := ["aws", "azure"] },
    { name := "title", type := .text },
    { name := "description", type := .text },
    { name := "url", type := .text },
    { name := "product_name", type := .text,
      examples := ["EC2", "S3", "Lambda", "DynamoDB", "Azure Functions", "Blob Storage",
        "Cosmos DB", "Virtual Machines"] },
    { name := "published_date", type := .dateTime }]

end TableTalk.Catalog
