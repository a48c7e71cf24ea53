import RemoteSensing.Text.Basic

/-!
Legends of well-known land cover datasets: for each class its label and its colour, in the order in which the
classes are shown.
-/

namespace RemoteSensing.Legend

def classesOf (written : String) : List (String × String) :=
  (Text.split written ";").map fun c =>
    let c := Text.trim c
    (Text.sliceFrom c 7, Text.slice c 0 6)

def coverTypes : String :=
  "05450a 1 Evergreen needleleaf forest; 086a10 2 Evergreen broadleaf forest;
    54a708 3 Deciduous needleleaf forest; 78d203 4 Deciduous broadleaf forest; 009900 5 Mixed forest;
    c6b044 6 Closed shrublands; dcd159 7 Open shrublands; dade48 8 Woody savannas; fbff13 9 Savannas;
    b6ff05 10 Grasslands; 27ff87 11 Permanent wetlands; c24f44 12 Croplands; a5a5a5 13 Urban and built-up;
    ff6d4c 14 Cropland/natural vegetation mosaic; 69fff8 15 Snow and ice;
    f9ffa4 16 Barren or sparsely vegetated"

/-- A label with the place of its class among the others: the place stands behind the number. -/
def within (place label : String) : String := Text.slice label 0 4 ++ place ++ Text.sliceFrom label 4

def corine : List (String × List (String × String)) :=
  [("Artificial surfaces",
    [("Urban fabric",
      "E6004D 111 Continuous urban fabric; FF0000 112 Discontinuous urban fabric"),
     ("Industrial, commercial, and transport units",
      "CC4DF2 121 Industrial or commercial units; CC0000 122 Road and rail networks and associated land;
       E6CCCC 123 Port areas; E6CCE6 124 Airports"),
     ("Mine, dump, and construction sites",
      "A600CC 131 Mineral extraction sites; A64DCC 132 Dump sites; FF4DFF 133 Construction sites"),
     ("Artificial, non-agricultural vegetated areas",
      "FFA6FF 141 Green urban areas; FFE6FF 142 Sport and leisure facilities")]),
   ("Agricultural areas",
    [("Arable land",
      "FFFFA8 211 Non-irrigated arable land; FFFF00 212 Permanently irrigated land; E6E600 213 Rice fields"),
     ("Permanent crops",
      "E68000 221 Vineyards; F2A64D 222 Fruit trees and berry plantations; E6A600 223 Olive groves"),
     ("Pastures",
      "E6E64D 231 Pastures"),
     ("Heterogeneous agricultural areas",
      "FFE6A6 241 Annual crops associated with permanent crops; FFE64D 242 Complex cultivation patterns;
       E6CC4D 243 Land principally occupied by agriculture, with significant areas of natural vegetation;
       F2CCA6 244 Agro-forestry areas")]),
   ("Forest and semi natural areas",
    [("Forests",
      "80FF00 311 Broad-leaved forest; 00A600 312 Coniferous forest; 4DFF00 313 Mixed forest"),
     ("Scrub and/or herbaceous vegetation associations",
      "CCF24D 321 Natural grasslands; A6FF80 322 Moors and heathland; A6E64D 323 Sclerophyllous vegetation;
       A6F200 324 Transitional woodland-shrub"),
     ("Open spaces with little or no vegetation",
      "E6E6E6 331 Beaches, dunes, sands; CCCCCC 332 Bare rocks; CCFFCC 333 Sparsely vegetated areas;
       000000 334 Burnt areas; A6E6CC 335 Glaciers and perpetual snow")]),
   ("Wetlands",
    [("Inland wetlands",
      "A6A6FF 411 Inland marshes; 4D4DFF 412 Peat bogs"),
     ("Maritime wetlands",
      "CCCCFF 421 Salt marshes; E6E6FF 422 Salines; A6A6E6 423 Intertidal flats")]),
   ("Water bodies",
    [("Inland waters",
      "00CCF2 511 Water courses; 80F2E6 512 Water bodies"),
     ("Marine waters",
      "00FFA6 521 Coastal lagoons; A6FFE6 522 Estuaries; E6F2FF 523 Sea and ocean")])]

def builtin : List (String × List (String × String)) :=
  [("NLCD", classesOf
    "466b9f 11 Open Water; d1def8 12 Perennial Ice/Snow; dec5c5 21 Developed, Open Space;
     d99282 22 Developed, Low Intensity; eb0000 23 Developed, Medium Intensity;
     ab0000 24 Developed, High Intensity; b3ac9f 31 Barren Land (Rock/Sand/Clay); 68ab5f 41 Deciduous Forest;
     1c5f2c 42 Evergreen Forest; b5c58f 43 Mixed Forest; af963c 51 Dwarf Scrub; ccb879 52 Shrub/Scrub;
     dfdfc2 71 Grassland/Herbaceous; d1d182 72 Sedge/Herbaceous; a3cc51 73 Lichens; 82ba9e 74 Moss;
     dcd939 81 Pasture/Hay; ab6c28 82 Cultivated Crops; b8d9eb 90 Woody Wetlands;
     6c9fb8 95 Emergent Herbaceous Wetlands"),
   ("ESA_WorldCover", classesOf
    "006400 10 Trees; ffbb22 20 Shrubland; ffff4c 30 Grassland; f096ff 40 Cropland; fa0000 50 Built-up;
     b4b4b4 60 Barren / sparse vegetation; f0f0f0 70 Snow and ice; 0064c8 80 Open water;
     0096a0 90 Herbaceous wetland; 00cf75 95 Mangroves; fae6a0 100 Moss and lichen"),
   ("ESRI_LandCover", classesOf
    "1A5BAB 1 Water; 358221 2 Trees; A7D282 3 Grass; 87D19E 4 Flooded Vegetation; FFDB5C 5 Crops;
     EECFA8 6 Shrub & Scrub; ED022A 7 Built Area; EDE9E4 8 Bare Ground; F2FAFF 9 Snow/Ice;
     C8C8C8 10 Clouds"),
   ("ESRI_LandCover_TS", classesOf
    "1A5BAB 1 Water; 358221 2 Trees; 87D19E 4 Flooded Vegetation; FFDB5C 5 Crops; ED022A 7 Built Area;
     EDE9E4 8 Bare Ground; F2FAFF 9 Snow/Ice; C8C8C8 10 Clouds; C6AD8D 11 Rangeland"),
   ("Dynamic_World", classesOf
    "419BDF 0 Water; 397D49 1 Trees; 88B053 2 Grass; 7A87C6 3 Flooded vegetation; E49635 4 Crops;
     DFC35A 5 Shrub & Scrub; C4281B 6 Built-up area; A59B8F 7 Bare ground; B39FE1 8 Snow & Ice"),
   ("NWI", classesOf
    "008837 Freshwater- Forested and Shrub wetland; 7fc31c Freshwater Emergent wetland; 688cc0 Freshwater pond;
     66c2a5 Estuarine and Marine wetland; 0190bf Riverine; 13007c Lakes;
     007c88 Estuarine and Marine Deepwater; b28656 Other Freshwater wetland"),
   ("MODIS/051/MCD12Q1", classesOf ("1c0dff 0 Water;" ++ coverTypes ++ ";ffffff 254 Unclassified")),
   ("MODIS/006/MCD12Q1", classesOf (coverTypes ++ ";1c0dff 17 Water bodies")),
   ("GLOBCOVER", classesOf
    "aaefef 11 Post-flooding or irrigated croplands; ffff63 14 Rainfed croplands;
     dcef63 20 Mosaic cropland (50-70%) / vegetation (grassland, shrubland, forest) (20-50%);
     cdcd64 30 Mosaic vegetation (grassland, shrubland, forest) (50-70%) / cropland (20-50%);
     006300 40 Closed to open (>15%) broadleaved evergreen and/or semi-deciduous forest (>5m);
     009f00 50 Closed (>40%) broadleaved deciduous forest (>5m);
     aac700 60 Open (15-40%) broadleaved deciduous forest (>5m);
     003b00 70 Closed (>40%) needleleaved evergreen forest (>5m);
     286300 90 Open (15-40%) needleleaved deciduous or evergreen forest (>5m);
     788300 100 Closed to open (>15%) mixed broadleaved and needleleaved forest (>5m);
     8d9f00 110 Mosaic forest-shrubland (50-70%) / grassland (20-50%);
     bd9500 120 Mosaic grassland (50-70%) / forest-shrubland (20-50%);
     956300 130 Closed to open (>15%) shrubland (<5m); ffb431 140 Closed to open (>15%) grassland;
     ffebae 150 Sparse (>15%) vegetation (woody vegetation, shrubs, grassland);
     00785a 160 Closed (>40%) broadleaved forest regularly flooded - Fresh water;
     009578 170 Closed (>40%) broadleaved semi-deciduous and/or evergreen forest regularly flooded - saline water;
     00dc83 180 Closed to open (>15%) vegetation (grassland, shrubland, woody vegetation) on regularly flooded or waterlogged soil - fresh, brackish or saline water;
     c31300 190 Artificial surfaces and associated areas (urban areas >50%) GLOBCOVER 2009;
     fff5d6 200 Bare areas; 0046c7 210 Water bodies; ffffff 220 Permanent snow and ice;
     743411 230 Unclassified"),
   ("JAXA/PALSAR", classesOf
    "006400 1 Forest; FEFF99 2 Non-Forest; 0000FF 3 Water"),
   ("Oxford", classesOf
    "032f7e 0 Water; 02740b 1 Evergreen_Needleleaf_Fores; 02740b 2 Evergreen_Broadleaf_Forest;
     8cf502 3 Deciduous_Needleleaf_Forest; 8cf502 4 Deciduous_Broadleaf_Forest; a4da01 5 Mixed_Forest;
     ffbd05 6 Closed_Shrublands; ffbd05 7 Open_Shrublands; 7a5a02 8 Woody_Savannas; f0ff0f 9 Savannas;
     869b36 10 Grasslands; 6091b4 11 Permanent_Wetlands; ff4e4e 12 Croplands; 999999 13 Urban_and_Built-up;
     ff4e4e 14 Cropland_Natural_Vegetation_Mosaic; ffffff 15 Snow_and_Ice;
     feffc0 16 Barren_Or_Sparsely_Vegetated; 020202 17 Unclassified"),
   ("AAFC/ACI", classesOf
    "000000 10 Cloud; 3333ff 20 Water; 996666 30 Exposed Land and Barren; cc6699 34 Urban and Developed;
     e1e1e1 35 Greenhouses; ffff00 50 Shrubland; 993399 80 Wetland; cccc00 110 Grassland;
     cc6600 120 Agriculture (undifferentiated); ffcc33 122 Pasture and Forages;
     7899f6 130 Too Wet to be Seeded; ff9900 131 Fallow; 660000 132 Cereals; dae31d 133 Barley;
     d6cc00 134 Other Grains; d2db25 135 Millet; d1d52b 136 Oats; cace32 137 Rye; c3c63a 138 Spelt;
     b9bc44 139 Triticale; a7b34d 140 Wheat; b9c64e 141 Switchgrass; 999900 142 Sorghum;
     92a55b 145 Winter Wheat; 809769 146 Spring Wheat; ffff99 147 Corn; 98887c 148 Tobacco;
     799b93 149 Ginseng; 5ea263 150 Oilseeds; 52ae77 151 Borage; 41bf7a 152 Camelina;
     d6ff70 153 Canola and Rapeseed; 8c8cff 154 Flaxseed; d6cc00 155 Mustard; ff7f00 156 Safflower;
     315491 157 Sunflower; cc9933 158 Soybeans; 896e43 160 Pulses; 8f6c3d 162 Peas; 82654a 167 Beans;
     b85900 174 Lentils; b74b15 175 Vegetables; ff8a8a 176 Tomatoes; ffcccc 177 Potatoes;
     6f55ca 178 Sugarbeets; ffccff 179 Other Vegetables; dc5424 180 Fruits; d05a30 181 Berries;
     d20000 182 Blueberry; cc0000 183 Cranberry; dc3200 185 Other Berry; ff6666 188 Orchards;
     c5453b 189 Other Fruits; 7442bd 190 Vineyards; ffcccc 191 Hops; b5fb05 192 Sod; ccff05 193 Herbs;
     07f98c 194 Nursery; 00ffcc 195 Buckwheat; cc33cc 196 Canaryseed; 8e7672 197 Hemp; b1954f 198 Vetch;
     749a66 199 Other Crops; 009900 200 Forest (undifferentiated); 006600 210 Coniferous;
     00cc00 220 Broadleaf; cc9900 230 Mixedwood"),
   ("COPERNICUS/CORINE/V20/100m", corine.flatMap fun (area, parts) =>
    parts.flatMap fun (part, classes) =>
      (classesOf classes).map fun (label, colour) => (within (area ++ " > " ++ part ++ " > ") label, colour)),
   ("COPERNICUS/Landcover/100m/Proba-V/Global", classesOf
    "282828 0 Unknown;
     FFBB22 20 Shrubs. Woody perennial plants with persistent and woody stems and without any defined main stem being less than 5 m tall. The shrub foliage can be either evergreen or deciduous.;
     FFFF4C 30 Herbaceous vegetation. Plants without persistent stem or shoots above ground and lacking definite firm structure. Tree and shrub cover is less than 10 %.;
     F096FF 40 Cultivated and managed vegetation / agriculture. Lands covered with temporary crops followed by harvest and a bare soil period (e.g., single and multiple cropping systems). Note that perennial woody crops will be classified as the appropriate forest or shrub land cover type.;
     FA0000 50 Urban / built up. Land covered by buildings and other man-made structures.;
     B4B4B4 60 Bare / sparse vegetation. Lands with exposed soil, sand, or rocks and never has more than 10 % vegetated cover during any time of the year.;
     F0F0F0 70 Snow and ice. Lands under snow or ice cover throughout the year.;
     0032C8 80 Permanent water bodies. Lakes, reservoirs, and rivers. Can be either fresh or salt-water bodies.;
     0096A0 90 Herbaceous wetland. Lands with a permanent mixture of water and herbaceous or woody vegetation. The vegetation can be present in either salt, brackish, or fresh water.;
     FAE6A0 100 Moss and lichen.;
     58481F 111 Closed forest, evergreen needle leaf. Tree canopy >70 %, almost all needle leaf trees remain green all year. Canopy is never without green foliage.;
     009900 112 Closed forest, evergreen broad leaf. Tree canopy >70 %, almost all broadleaf trees remain green year round. Canopy is never without green foliage.;
     70663E 113 Closed forest, deciduous needle leaf. Tree canopy >70 %, consists of seasonal needle leaf tree communities with an annual cycle of leaf-on and leaf-off periods.;
     00CC00 114 Closed forest, deciduous broad leaf. Tree canopy >70 %, consists of seasonal broadleaf tree communities with an annual cycle of leaf-on and leaf-off periods.;
     4E751F 115 Closed forest, mixed.; 007800 116 Closed forest, not matching any of the other definitions.;
     666000 121 Open forest, evergreen needle leaf. Top layer- trees 15-70 % and second layer- mixed of shrubs and grassland, almost all needle leaf trees remain green all year. Canopy is never without green foliage.;
     8DB400 122 Open forest, evergreen broad leaf. Top layer- trees 15-70 % and second layer- mixed of shrubs and grassland, almost all broadleaf trees remain green year round. Canopy is never without green foliage.;
     8D7400 123 Open forest, deciduous needle leaf. Top layer- trees 15-70 % and second layer- mixed of shrubs and grassland, consists of seasonal needle leaf tree communities with an annual cycle of leaf-on and leaf-off periods.;
     A0DC00 124 Open forest, deciduous broad leaf. Top layer- trees 15-70 % and second layer- mixed of shrubs and grassland, consists of seasonal broadleaf tree communities with an annual cycle of leaf-on and leaf-off periods.;
     929900 125 Open forest, mixed.; 648C00 126 Open forest, not matching any of the other definitions.;
     000080 200 Oceans, seas. Can be either fresh or salt-water bodies."),
   ("USDA/NASS/CDL", classesOf
    "ffd300 1 Corn; ff2626 2 Cotton; 00a8e2 3 Rice; ff9e0a 4 Sorghum; 267000 5 Soybeans;
     ffff00 6 Sunflower; 70a500 10 Peanuts; 00af49 11 Tobacco; dda50a 12 Sweet Corn;
     dda50a 13 Pop or Orn Corn; 7cd3ff 14 Mint; e2007c 21 Barley; 896054 22 Durum Wheat;
     d8b56b 23 Spring Wheat; a57000 24 Winter Wheat; d69ebc 25 Other Small Grains;
     707000 26 Dbl Crop WinWht/Soybeans; aa007c 27 Rye; a05989 28 Oats; 700049 29 Millet; d69ebc 30 Speltz;
     d1ff00 31 Canola; 7c99ff 32 Flaxseed; d6d600 33 Safflower; d1ff00 34 Rape Seed; 00af49 35 Mustard;
     ffa5e2 36 Alfalfa; a5f28c 37 Other Hay/Non Alfalfa; 00af49 38 Camelina; d69ebc 39 Buckwheat;
     a800e2 41 Sugarbeets; a50000 42 Dry Beans; 702600 43 Potatoes; 00af49 44 Other Crops;
     af7cff 45 Sugarcane; 702600 46 Sweet Potatoes; ff6666 47 Misc Vegs & Fruits; ff6666 48 Watermelons;
     ffcc66 49 Onions; ff6666 50 Cucumbers; 00af49 51 Chick Peas; 00ddaf 52 Lentils; 54ff00 53 Peas;
     f2a377 54 Tomatoes; ff6666 55 Caneberries; 00af49 56 Hops; 7cd3ff 57 Herbs;
     e8bfff 58 Clover/Wildflowers; afffdd 59 Sod/Grass Seed; 00af49 60 Switchgrass;
     bfbf77 61 Fallow/Idle Cropland; 93cc93 63 Forest; c6d69e 64 Shrubland; ccbfa3 65 Barren;
     ff00ff 66 Cherries; ff8eaa 67 Peaches; ba004f 68 Apples; 704489 69 Grapes; 007777 70 Christmas Trees;
     af9970 71 Other Tree Crops; ffff7c 72 Citrus; b5705b 74 Pecans; 00a582 75 Almonds; e8d6af 76 Walnuts;
     af9970 77 Pears; f2f2f2 81 Clouds/No Data; 999999 82 Developed; 4970a3 83 Water; 7cafaf 87 Wetlands;
     e8ffbf 88 Nonag/Undefined; 00ffff 92 Aquaculture; 4970a3 111 Open Water; d3e2f9 112 Perennial Ice/Snow;
     999999 121 Developed/Open Space; 999999 122 Developed/Low Intensity; 999999 123 Developed/Med Intensity;
     999999 124 Developed/High Intensity; ccbfa3 131 Barren; 93cc93 141 Deciduous Forest;
     93cc93 142 Evergreen Forest; 93cc93 143 Mixed Forest; c6d69e 152 Shrubland;
     e8ffbf 176 Grassland/Pasture; 7cafaf 190 Woody Wetlands; 7cafaf 195 Herbaceous Wetlands;
     00ff8c 204 Pistachios; d69ebc 205 Triticale; ff6666 206 Carrots; ff6666 207 Asparagus;
     ff6666 208 Garlic; ff6666 209 Cantaloupes; ff8eaa 210 Prunes; 334933 211 Olives; e27026 212 Oranges;
     ff6666 213 Honeydew Melons; ff6666 214 Broccoli; ff6666 216 Peppers; af9970 217 Pomegranates;
     ff8eaa 218 Nectarines; ff6666 219 Greens; ff8eaa 220 Plums; ff6666 221 Strawberries;
     ff6666 222 Squash; ff8eaa 223 Apricots; 00af49 224 Vetch; ffd300 225 Dbl Crop WinWht/Corn;
     ffd300 226 Dbl Crop Oats/Corn; ff6666 227 Lettuce; ff6666 229 Pumpkins;
     896054 230 Dbl Crop Lettuce/Durum Wht; ff6666 231 Dbl Crop Lettuce/Cantaloupe;
     ff2626 232 Dbl Crop Lettuce/Cotton; e2007c 233 Dbl Crop Lettuce/Barley;
     ff9e0a 234 Dbl Crop Durum Wht/Sorghum; ff9e0a 235 Dbl Crop Barley/Sorghum;
     a57000 236 Dbl Crop WinWht/Sorghum; ffd300 237 Dbl Crop Barley/Corn; a57000 238 Dbl Crop WinWht/Cotton;
     267000 239 Dbl Crop Soybeans/Cotton; 267000 240 Dbl Crop Soybeans/Oats; ffd300 241 Dbl Crop Corn/Soybeans;
     000099 242 Blueberries; ff6666 243 Cabbage; ff6666 244 Cauliflower; ff6666 245 Celery;
     ff6666 246 Radishes; ff6666 247 Turnips; ff6666 248 Eggplants; ff6666 249 Gourds;
     ff6666 250 Cranberries; 267000 254 Dbl Crop Barley/Soybeans"),
   ("ALOS_landforms", classesOf
    "141414 11 Peak/ridge (warm); 383838 12 Peak/ridge; 808080 13 Peak/ridge (cool);
     EBEB8F 14 Mountain/divide; F7D311 15 Cliff; AA0000 21 Upper slope (warm); D89382 22 Upper slope;
     DDC9C9 23 Upper slope (cool); DCCDCE 24 Upper slope (flat); 1C6330 31 Lower slope (warm);
     68AA63 32 Lower slope; B5C98E 33 Lower slope (cool); E1F0E5 34 Lower slope (flat); a975ba 41 Valley;
     6f198c 42 Valley (narrow)")]

end RemoteSensing.Legend
