import Heightt.Schema.Text

/-!
# What a search reads

The rows of the nine tables that `search.service.ts` looks through, with the columns it compares,
orders by and shows as the title of a result.
-/

namespace Heightt.Search

structure UserProfile where
  firstName : Text
  lastName : Text
  deriving DecidableEq

structure UserRow where
  id : Text
  email : Text
  username : Text
  profile : Option UserProfile
  /-- Of the student profile. -/
  institutionId : Option Text
  createdAt : Int

structure OrganizationRow where
  id : Text
  name : Text
  description : Option Text
  slug : Text
  institutionId : Option Text
  createdAt : Int

structure StudentRow where
  id : Text
  email : Text
  username : Text
  profile : Option UserProfile
  matricNumber : Option Text
  institutionId : Text
  createdAt : Int

structure InstitutionRow where
  id : Text
  name : Text
  shortName : Text
  code : Text
  city : Option Text
  state : Option Text
  country : Option Text
  createdAt : Int

/-- A transaction, or a payment. -/
structure ReferenceRow where
  id : Text
  reference : Text
  description : Option Text
  createdAt : Int

structure DueRow where
  id : Text
  organizationId : Text
  name : Text
  description : Option Text
  createdAt : Int

structure EventRow where
  id : Text
  title : Text
  description : Option Text
  location : Option Text
  startDate : Int
  createdAt : Int

structure AnnouncementRow where
  id : Text
  organizationId : Text
  title : Text
  content : Text
  isPublished : Bool
  createdAt : Int

/-- The tables, each in the order its queries return the rows in. -/
structure Tables where
  users : List UserRow := []
  organizations : List OrganizationRow := []
  students : List StudentRow := []
  institutions : List InstitutionRow := []
  transactions : List ReferenceRow := []
  payments : List ReferenceRow := []
  dues : List DueRow := []
  events : List EventRow := []
  announcements : List AnnouncementRow := []

/-- How texts are compared: `contains` without regard to case, by the database, and the order of names. -/
structure Locale where
  contains : Text → Text → Bool
  toLowerCase : Text → Text
  localeCompare : Text → Text → Int

/-- Texts of small ASCII letters. -/
def plainLocale : Locale where
  contains text query := decide (query <:+: text)
  toLowerCase text := text
  localeCompare a b := if a = b then 0 else if a < b then -1 else 1

end Heightt.Search
