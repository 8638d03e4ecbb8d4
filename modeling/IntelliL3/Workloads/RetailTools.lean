import IntelliL3.Core.Json
import IntelliL3.Lib.Run

/-! # Tools of the retail workflow

`workloads/retail_tools.py`: five tools over a loaded dataset and two lists of what was done.
Two of them append to a list; the others, and every failure, leave both as they are.
-/

namespace IntelliL3

open Lib

/-- The orders are those whose id is a text. -/
structure RetailToolKit where
  nowDate : String := "2026-02-01"
  orders : Dict String Json
  orderItems : Json
  policies : Json
  refundActions : List Json := []
  returnRequests : List Json := []

/-- Arguments of a tool: a dictionary. -/
abbrev ToolArgs := List (String × Json)

namespace RetailToolKit

abbrev ToolM := EStateM PyError RetailToolKit

/-- `{row[field]: row for row in rows}`, read at texts -/
def indexRows (field : String) (rows : Json) : Except PyError (Dict String Json) := do
  (← rows.iterate).foldlM (fun index row => do
    match ← row.getItem field with
    | .str key => return index.set key row
    | .list _ => throw (.typeError "unhashable type: 'list'")
    | .dict _ => throw (.typeError "unhashable type: 'dict'")
    | _ => return index) Dict.empty

/-- `RetailToolKit(data_dir, now_date)`, with what the four files hold -/
def new (orders orderItems products policies : Json) (nowDate : String := "2026-02-01") :
    Except PyError RetailToolKit := do
  let orders ← indexRows "order_id" orders
  let _ ← indexRows "sku" products
  return { nowDate, orders, orderItems, policies }

def failed (error : String) : Json :=
  .dict [("ok", .bool false), ("error", .str error), ("data", .dict [])]

def succeeded (data : Json) : Json :=
  .dict [("ok", .bool true), ("error", .str ""), ("data", data)]

def getOrder (orderId : String) (self : RetailToolKit) : Except PyError Json := do
  match self.orders.get? orderId with
  | none => return failed "order_not_found"
  | some order =>
      let items ← (← self.orderItems.iterate).filterM fun row => do
        return (← row.getItem "order_id").equals (.str orderId)
      return succeeded (.dict [("order", order), ("items", .list items)])

def searchPolicy (policyKey : String) (self : RetailToolKit) : Except PyError Json := do
  match ← self.policies.get policyKey with
  | .none => return failed "policy_key_not_found"
  | payload => return succeeded (.dict [("policy_key", .str policyKey), ("policy", payload)])

variable [PyBuiltins]

/-- The three numbers of a date, unpacked. -/
def dateNumbers (parts : List String) : Except PyError (Int × Int × Int) := do
  match ← parts.mapM fun part => Json.toInt (.str part) with
  | [year, month, day] => return (year, month, day)
  | numbers => throw (.valueError
      s!"not enough values to unpack (expected 3, got {numbers.length})")

/-- The number a date is counted as. -/
def linearDay (date : Int × Int × Int) : Int := date.1 * 365 + date.2.1 * 30 + date.2.2

def withinReturnWindow (deliveredAt : Json) (self : RetailToolKit) : Except PyError Bool := do
  if !deliveredAt.truthy then
    return false
  let delivered ← deliveredAt.split '-' 2
  let current ← (Json.str self.nowDate).split '-' 2
  let delivered ← dateNumbers delivered
  let current ← dateNumbers current
  let delta := linearDay current - linearDay delivered
  if delta < 0 then
    return false
  let window ← (← (← self.policies.getItem "rules").getItem "return_window_days").toInt
  return decide (delta ≤ window)

def calculateRefund (orderId itemId : String) (quantity : Int) (self : RetailToolKit) :
    Except PyError Json := do
  if quantity ≤ 0 then
    return failed "invalid_quantity"
  match self.orders.get? orderId with
  | none => return failed "order_not_found"
  | some order =>
      let status ← order.get "status"
      let statuses ← (← self.policies.getItem "rules").getItem "eligible_order_statuses"
      if !(← statuses.contains status) then
        return failed "order_not_eligible_status"
      if !(← self.withinReturnWindow (← order.get "delivered_at" (.str ""))) then
        return failed "outside_return_window"
      let item ← (← self.orderItems.iterate).findM? fun row => do
        if (← row.getItem "order_id").equals (.str orderId) then
          return (← row.getItem "item_id").equals (.str itemId)
        return false
      match item with
      | none => return failed "item_not_found"
      | some item =>
          if quantity > (← (← item.getItem "quantity").toInt) then
            return failed "quantity_exceeds_purchase"
          let price ← (← item.getItem "unit_price").toFloat
          let amount := PyBuiltins.mul price (← (Json.int quantity).toFloat)
          return succeeded (.dict [
            ("order_id", .str orderId),
            ("item_id", .str itemId),
            ("quantity", .int quantity),
            ("refund_amount", .float amount),
            ("currency", ← order.get "currency" (.str "USD"))])

def submitRefund (orderId itemId : String) (amount : PyFloat) (reasonCode : String) :
    ToolM Json := do
  if amount.le (.finite 0) then
    return failed "invalid_refund_amount"
  let self ← MonadState.get
  match self.orders.get? orderId with
  | none => return failed "order_not_found"
  | some order =>
      let method ← raising (order.get "refund_method")
      let rules ← raising (self.policies.getItem "rules")
      let methods ← raising (rules.getItem "supported_refund_methods")
      if !(← raising (methods.contains method)) then
        return failed "unsupported_refund_method"
      let currency ← raising (order.get "currency" (.str "USD"))
      let action := Json.dict [
        ("order_id", .str orderId),
        ("item_id", .str itemId),
        ("amount", .float amount),
        ("currency", currency),
        ("refund_method", method),
        ("reason_code", .str reasonCode)]
      modify fun self => { self with refundActions := self.refundActions ++ [action] }
      return succeeded action

def updateReturnRequest (orderId itemId status note : String) : ToolM Json := do
  if status = "" then
    return failed "missing_status"
  if !(← MonadState.get).orders.contains orderId then
    return failed "order_not_found"
  let payload := Json.dict [
    ("order_id", .str orderId),
    ("item_id", .str itemId),
    ("status", .str status),
    ("note", .str note)]
  modify fun self => { self with returnRequests := self.returnRequests ++ [payload] }
  return succeeded payload

/-- `args.get(key, default)` -/
def arg (args : ToolArgs) (key : String) (default : Json) : Json :=
  (Assoc.get? args key).getD default

def execute (toolName : String) (args : ToolArgs) : ToolM Json := do
  let text := fun key default => (arg args key (.str default)).toStr
  match toolName with
  | "get_order" =>
      let orderId ← raising (text "order_id" "")
      raising (getOrder orderId (← MonadState.get))
  | "search_policy" =>
      let policyKey ← raising (text "policy_key" "rules")
      raising (searchPolicy policyKey (← MonadState.get))
  | "calculate_refund" =>
      let orderId ← raising (text "order_id" "")
      let itemId ← raising (text "item_id" "")
      let quantity ← raising (arg args "quantity" (.int 1)).toInt
      raising (calculateRefund orderId itemId quantity (← MonadState.get))
  | "submit_refund" =>
      let orderId ← raising (text "order_id" "")
      let itemId ← raising (text "item_id" "")
      let amount ← raising (arg args "amount" (.float (.finite 0))).toFloat
      let reasonCode ← raising (text "reason_code" "")
      submitRefund orderId itemId amount reasonCode
  | "update_return_request" =>
      let orderId ← raising (text "order_id" "")
      let itemId ← raising (text "item_id" "")
      let status ← raising (text "status" "")
      let note ← raising (text "note" "")
      updateReturnRequest orderId itemId status note
  | unknown => return failed s!"unknown_tool:{unknown}"

def resetRuntimeState (self : RetailToolKit) : RetailToolKit :=
  { self with refundActions := [], returnRequests := [] }

end RetailToolKit

end IntelliL3
