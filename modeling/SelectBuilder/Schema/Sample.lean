import SelectBuilder.Schema.Registry

/-! # A sample registry

Three tables of a shop, for trying the builder out.
-/

namespace SelectBuilder.Schema

def sampleUsers : Table where
  schema := .text "public"
  name := .text "users"
  columns := [
    { name := .text "id", type := .text "integer", nullable := .bool false },
    { name := .text "email", type := .text "varchar(255)", nullable := .bool false },
    { name := .text "status", type := .text "varchar(20)" },
    { name := .text "is_active", type := .text "boolean" },
    { name := .text "created_at", type := .text "timestamp" }]
  indexes := [{ name := .text "users_pkey", columns := [.text "id"], unique := .bool true }]

def sampleOrders : Table where
  schema := .text "public"
  name := .text "orders"
  columns := [
    { name := .text "order_id", type := .text "integer", nullable := .bool false },
    { name := .text "user_id", type := .text "integer" },
    { name := .text "order_date", type := .text "date" },
    { name := .text "quantity", type := .text "integer" },
    { name := .text "unit_price", type := .text "numeric(10, 2)" },
    { name := .text "region", type := .text "varchar(50)" }]
  indexes := [
    { name := .text "orders_pkey", columns := [.text "order_id"], unique := .bool true },
    { name := .text "orders_user_id_idx", columns := [.text "user_id"] }]

def sampleProducts : Table where
  schema := .text "public"
  name := .text "products"
  columns := [
    { name := .text "product_id", type := .text "integer", nullable := .bool false },
    { name := .text "product_line", type := .text "varchar(100)" },
    { name := .text "category", type := .text "varchar(100)" }]
  indexes := [
    { name := .text "products_pkey", columns := [.text "product_id"], unique := .bool true }]

def Registry.sample : Registry := .ofList [sampleUsers, sampleOrders, sampleProducts]

end SelectBuilder.Schema
