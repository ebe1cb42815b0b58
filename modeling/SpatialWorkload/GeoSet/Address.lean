import SpatialWorkload.Properties.Typed

/-!
# Addresses of a key server

The address of a server is given whole or by its parts.
-/

namespace SpatialWorkload.GeoSet

/-- An address that is given whole is taken as it stands. -/
def connectionUrl (properties : Properties) : Except ConfigError String :=
  match properties.get? "redis.url" with
  | some url => .ok url
  | none => do
      let host := (properties.get? "redis.host").getD "127.0.0.1"
      let port ← properties.readOr Decimal.word16? "redis.port" 6379
      let credentials := match properties.get? "redis.password" with
        | some password => s!":{password}@"
        | none => ""
      return s!"redis://{credentials}{host}:{port.toNat}/"

end SpatialWorkload.GeoSet
