import StorageAccess.Web.Header
import StorageAccess.Web.Uri

/-! A request without its body. -/
namespace StorageAccess

structure RequestHead where
  method : Method
  uri : Uri
  headers : Headers
  deriving DecidableEq

end StorageAccess
