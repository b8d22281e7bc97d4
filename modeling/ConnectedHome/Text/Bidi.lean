import ConnectedHome.Text.CodeTable
/-!
# Bidirectional classes

The bidirectional class of every assigned character of Unicode 14.0 (`bidiClass?`): `L` for
left-to-right letters, `R` and `AL` for right-to-left letters, `EN` and `AN` for European and
Arabic numbers, `NSM` for non-spacing marks, and so on.  Unassigned characters have none.

`markRanges` are the marks (the general categories `Mn`, `Mc` and `Me`), which cannot begin a
label of a host name.
-/
namespace ConnectedHome.Text

/-- The names of the bidirectional classes, by index. -/
def bidiClassNames : Array String := #["AL", "AN", "B", "BN", "CS", "EN", "ES", "ET", "FSI", "L", "LRE", "LRI", "LRO", "NSM", "ON", "PDF", "PDI", "R", "RLE", "RLI", "RLO", "S", "WS"]

/-- The bidirectional classes of the assigned characters, as indices of `bidiClassNames`. -/
def bidiClasses : CodeValues := readCodeValues
  "0-8:3,9:15,a:2,b:15,c:16,d:2,e-1b:3,1c-1e:2,1f:15,20:16,21-22:e,23-25:7,26-2a:e,2b:6,2c:4,2d:6,
  2e-2f:4,30-39:5,3a:4,3b-40:e,41-5a:9,5b-60:e,61-7a:9,7b-7e:e,7f-84:3,85:2,86-9f:3,a0:4,a1:e,
  a2-a5:7,a6-a9:e,aa:9,ab-ac:e,ad:3,ae-af:e,b0-b1:7,b2-b3:5,b4:e,b5:9,b6-b8:e,b9:5,ba:9,bb-bf:e,
  c0-d6:9,d7:e,d8-f6:9,f7:e,f8-2b8:9,2b9-2ba:e,2bb-2c1:9,2c2-2cf:e,2d0-2d1:9,2d2-2df:e,2e0-2e4:9,
  2e5-2ed:e,2ee:9,2ef-2ff:e,300-36f:d,370-373:9,374-375:e,376-377:9,37a-37d:9,37e:e,37f:9,
  384-385:e,386:9,387:e,388-38a:9,38c:9,38e-3a1:9,3a3-3f5:9,3f6:e,3f7-482:9,483-489:d,48a-52f:9,
  531-556:9,559-589:9,58a:e,58d-58e:e,58f:7,591-5bd:d,5be:11,5bf:d,5c0:11,5c1-5c2:d,5c3:11,
  5c4-5c5:d,5c6:11,5c7:d,5d0-5ea:11,5ef-5f4:11,600-605:1,606-607:e,608:0,609-60a:7,60b:0,60c:4,
  60d:0,60e-60f:e,610-61a:d,61b-64a:0,64b-65f:d,660-669:1,66a:7,66b-66c:1,66d-66f:0,670:d,
  671-6d5:0,6d6-6dc:d,6dd:1,6de:e,6df-6e4:d,6e5-6e6:0,6e7-6e8:d,6e9:e,6ea-6ed:d,6ee-6ef:0,
  6f0-6f9:5,6fa-70d:0,70f-710:0,711:d,712-72f:0,730-74a:d,74d-7a5:0,7a6-7b0:d,7b1:0,7c0-7ea:11,
  7eb-7f3:d,7f4-7f5:11,7f6-7f9:e,7fa:11,7fd:d,7fe-815:11,816-819:d,81a:11,81b-823:d,824:11,
  825-827:d,828:11,829-82d:d,830-83e:11,840-858:11,859-85b:d,85e:11,860-86a:0,870-88e:0,890-891:1,
  898-89f:d,8a0-8c9:0,8ca-8e1:d,8e2:1,8e3-902:d,903-939:9,93a:d,93b:9,93c:d,93d-940:9,941-948:d,
  949-94c:9,94d:d,94e-950:9,951-957:d,958-961:9,962-963:d,964-980:9,981:d,982-983:9,985-98c:9,
  98f-990:9,993-9a8:9,9aa-9b0:9,9b2:9,9b6-9b9:9,9bc:d,9bd-9c0:9,9c1-9c4:d,9c7-9c8:9,9cb-9cc:9,
  9cd:d,9ce:9,9d7:9,9dc-9dd:9,9df-9e1:9,9e2-9e3:d,9e6-9f1:9,9f2-9f3:7,9f4-9fa:9,9fb:7,9fc-9fd:9,
  9fe:d,a01-a02:d,a03:9,a05-a0a:9,a0f-a10:9,a13-a28:9,a2a-a30:9,a32-a33:9,a35-a36:9,a38-a39:9,
  a3c:d,a3e-a40:9,a41-a42:d,a47-a48:d,a4b-a4d:d,a51:d,a59-a5c:9,a5e:9,a66-a6f:9,a70-a71:d,
  a72-a74:9,a75:d,a76:9,a81-a82:d,a83:9,a85-a8d:9,a8f-a91:9,a93-aa8:9,aaa-ab0:9,ab2-ab3:9,
  ab5-ab9:9,abc:d,abd-ac0:9,ac1-ac5:d,ac7-ac8:d,ac9:9,acb-acc:9,acd:d,ad0:9,ae0-ae1:9,ae2-ae3:d,
  ae6-af0:9,af1:7,af9:9,afa-aff:d,b01:d,b02-b03:9,b05-b0c:9,b0f-b10:9,b13-b28:9,b2a-b30:9,
  b32-b33:9,b35-b39:9,b3c:d,b3d-b3e:9,b3f:d,b40:9,b41-b44:d,b47-b48:9,b4b-b4c:9,b4d:d,b55-b56:d,
  b57:9,b5c-b5d:9,b5f-b61:9,b62-b63:d,b66-b77:9,b82:d,b83:9,b85-b8a:9,b8e-b90:9,b92-b95:9,
  b99-b9a:9,b9c:9,b9e-b9f:9,ba3-ba4:9,ba8-baa:9,bae-bb9:9,bbe-bbf:9,bc0:d,bc1-bc2:9,bc6-bc8:9,
  bca-bcc:9,bcd:d,bd0:9,bd7:9,be6-bf2:9,bf3-bf8:e,bf9:7,bfa:e,c00:d,c01-c03:9,c04:d,c05-c0c:9,
  c0e-c10:9,c12-c28:9,c2a-c39:9,c3c:d,c3d:9,c3e-c40:d,c41-c44:9,c46-c48:d,c4a-c4d:d,c55-c56:d,
  c58-c5a:9,c5d:9,c60-c61:9,c62-c63:d,c66-c6f:9,c77:9,c78-c7e:e,c7f-c80:9,c81:d,c82-c8c:9,
  c8e-c90:9,c92-ca8:9,caa-cb3:9,cb5-cb9:9,cbc:d,cbd-cc4:9,cc6-cc8:9,cca-ccb:9,ccc-ccd:d,cd5-cd6:9,
  cdd-cde:9,ce0-ce1:9,ce2-ce3:d,ce6-cef:9,cf1-cf2:9,d00-d01:d,d02-d0c:9,d0e-d10:9,d12-d3a:9,
  d3b-d3c:d,d3d-d40:9,d41-d44:d,d46-d48:9,d4a-d4c:9,d4d:d,d4e-d4f:9,d54-d61:9,d62-d63:d,d66-d7f:9,
  d81:d,d82-d83:9,d85-d96:9,d9a-db1:9,db3-dbb:9,dbd:9,dc0-dc6:9,dca:d,dcf-dd1:9,dd2-dd4:d,dd6:d,
  dd8-ddf:9,de6-def:9,df2-df4:9,e01-e30:9,e31:d,e32-e33:9,e34-e3a:d,e3f:7,e40-e46:9,e47-e4e:d,
  e4f-e5b:9,e81-e82:9,e84:9,e86-e8a:9,e8c-ea3:9,ea5:9,ea7-eb0:9,eb1:d,eb2-eb3:9,eb4-ebc:d,ebd:9,
  ec0-ec4:9,ec6:9,ec8-ecd:d,ed0-ed9:9,edc-edf:9,f00-f17:9,f18-f19:d,f1a-f34:9,f35:d,f36:9,f37:d,
  f38:9,f39:d,f3a-f3d:e,f3e-f47:9,f49-f6c:9,f71-f7e:d,f7f:9,f80-f84:d,f85:9,f86-f87:d,f88-f8c:9,
  f8d-f97:d,f99-fbc:d,fbe-fc5:9,fc6:d,fc7-fcc:9,fce-fda:9,1000-102c:9,102d-1030:d,1031:9,
  1032-1037:d,1038:9,1039-103a:d,103b-103c:9,103d-103e:d,103f-1057:9,1058-1059:d,105a-105d:9,
  105e-1060:d,1061-1070:9,1071-1074:d,1075-1081:9,1082:d,1083-1084:9,1085-1086:d,1087-108c:9,
  108d:d,108e-109c:9,109d:d,109e-10c5:9,10c7:9,10cd:9,10d0-1248:9,124a-124d:9,1250-1256:9,1258:9,
  125a-125d:9,1260-1288:9,128a-128d:9,1290-12b0:9,12b2-12b5:9,12b8-12be:9,12c0:9,12c2-12c5:9,
  12c8-12d6:9,12d8-1310:9,1312-1315:9,1318-135a:9,135d-135f:d,1360-137c:9,1380-138f:9,1390-1399:e,
  13a0-13f5:9,13f8-13fd:9,1400:e,1401-167f:9,1680:16,1681-169a:9,169b-169c:e,16a0-16f8:9,
  1700-1711:9,1712-1714:d,1715:9,171f-1731:9,1732-1733:d,1734-1736:9,1740-1751:9,1752-1753:d,
  1760-176c:9,176e-1770:9,1772-1773:d,1780-17b3:9,17b4-17b5:d,17b6:9,17b7-17bd:d,17be-17c5:9,
  17c6:d,17c7-17c8:9,17c9-17d3:d,17d4-17da:9,17db:7,17dc:9,17dd:d,17e0-17e9:9,17f0-17f9:e,
  1800-180a:e,180b-180d:d,180e:3,180f:d,1810-1819:9,1820-1878:9,1880-1884:9,1885-1886:d,
  1887-18a8:9,18a9:d,18aa:9,18b0-18f5:9,1900-191e:9,1920-1922:d,1923-1926:9,1927-1928:d,
  1929-192b:9,1930-1931:9,1932:d,1933-1938:9,1939-193b:d,1940:e,1944-1945:e,1946-196d:9,
  1970-1974:9,1980-19ab:9,19b0-19c9:9,19d0-19da:9,19de-19ff:e,1a00-1a16:9,1a17-1a18:d,1a19-1a1a:9,
  1a1b:d,1a1e-1a55:9,1a56:d,1a57:9,1a58-1a5e:d,1a60:d,1a61:9,1a62:d,1a63-1a64:9,1a65-1a6c:d,
  1a6d-1a72:9,1a73-1a7c:d,1a7f:d,1a80-1a89:9,1a90-1a99:9,1aa0-1aad:9,1ab0-1ace:d,1b00-1b03:d,
  1b04-1b33:9,1b34:d,1b35:9,1b36-1b3a:d,1b3b:9,1b3c:d,1b3d-1b41:9,1b42:d,1b43-1b4c:9,1b50-1b6a:9,
  1b6b-1b73:d,1b74-1b7e:9,1b80-1b81:d,1b82-1ba1:9,1ba2-1ba5:d,1ba6-1ba7:9,1ba8-1ba9:d,1baa:9,
  1bab-1bad:d,1bae-1be5:9,1be6:d,1be7:9,1be8-1be9:d,1bea-1bec:9,1bed:d,1bee:9,1bef-1bf1:d,
  1bf2-1bf3:9,1bfc-1c2b:9,1c2c-1c33:d,1c34-1c35:9,1c36-1c37:d,1c3b-1c49:9,1c4d-1c88:9,1c90-1cba:9,
  1cbd-1cc7:9,1cd0-1cd2:d,1cd3:9,1cd4-1ce0:d,1ce1:9,1ce2-1ce8:d,1ce9-1cec:9,1ced:d,1cee-1cf3:9,
  1cf4:d,1cf5-1cf7:9,1cf8-1cf9:d,1cfa:9,1d00-1dbf:9,1dc0-1dff:d,1e00-1f15:9,1f18-1f1d:9,
  1f20-1f45:9,1f48-1f4d:9,1f50-1f57:9,1f59:9,1f5b:9,1f5d:9,1f5f-1f7d:9,1f80-1fb4:9,1fb6-1fbc:9,
  1fbd:e,1fbe:9,1fbf-1fc1:e,1fc2-1fc4:9,1fc6-1fcc:9,1fcd-1fcf:e,1fd0-1fd3:9,1fd6-1fdb:9,
  1fdd-1fdf:e,1fe0-1fec:9,1fed-1fef:e,1ff2-1ff4:9,1ff6-1ffc:9,1ffd-1ffe:e,2000-200a:16,
  200b-200d:3,200e:9,200f:11,2010-2027:e,2028:16,2029:2,202a:a,202b:12,202c:f,202d:c,202e:14,
  202f:4,2030-2034:7,2035-2043:e,2044:4,2045-205e:e,205f:16,2060-2064:3,2066:b,2067:13,2068:8,
  2069:10,206a-206f:3,2070:5,2071:9,2074-2079:5,207a-207b:6,207c-207e:e,207f:9,2080-2089:5,
  208a-208b:6,208c-208e:e,2090-209c:9,20a0-20c0:7,20d0-20f0:d,2100-2101:e,2102:9,2103-2106:e,
  2107:9,2108-2109:e,210a-2113:9,2114:e,2115:9,2116-2118:e,2119-211d:9,211e-2123:e,2124:9,2125:e,
  2126:9,2127:e,2128:9,2129:e,212a-212d:9,212e:7,212f-2139:9,213a-213b:e,213c-213f:9,2140-2144:e,
  2145-2149:9,214a-214d:e,214e-214f:9,2150-215f:e,2160-2188:9,2189-218b:e,2190-2211:e,2212:6,
  2213:7,2214-2335:e,2336-237a:9,237b-2394:e,2395:9,2396-2426:e,2440-244a:e,2460-2487:e,
  2488-249b:5,249c-24e9:9,24ea-26ab:e,26ac:9,26ad-27ff:e,2800-28ff:9,2900-2b73:e,2b76-2b95:e,
  2b97-2bff:e,2c00-2ce4:9,2ce5-2cea:e,2ceb-2cee:9,2cef-2cf1:d,2cf2-2cf3:9,2cf9-2cff:e,2d00-2d25:9,
  2d27:9,2d2d:9,2d30-2d67:9,2d6f-2d70:9,2d7f:d,2d80-2d96:9,2da0-2da6:9,2da8-2dae:9,2db0-2db6:9,
  2db8-2dbe:9,2dc0-2dc6:9,2dc8-2dce:9,2dd0-2dd6:9,2dd8-2dde:9,2de0-2dff:d,2e00-2e5d:e,2e80-2e99:e,
  2e9b-2ef3:e,2f00-2fd5:e,2ff0-2ffb:e,3000:16,3001-3004:e,3005-3007:9,3008-3020:e,3021-3029:9,
  302a-302d:d,302e-302f:9,3030:e,3031-3035:9,3036-3037:e,3038-303c:9,303d-303f:e,3041-3096:9,
  3099-309a:d,309b-309c:e,309d-309f:9,30a0:e,30a1-30fa:9,30fb:e,30fc-30ff:9,3105-312f:9,
  3131-318e:9,3190-31bf:9,31c0-31e3:e,31f0-321c:9,321d-321e:e,3220-324f:9,3250-325f:e,3260-327b:9,
  327c-327e:e,327f-32b0:9,32b1-32bf:e,32c0-32cb:9,32cc-32cf:e,32d0-3376:9,3377-337a:e,337b-33dd:9,
  33de-33df:e,33e0-33fe:9,33ff:e,3400-4dbf:9,4dc0-4dff:e,4e00-a48c:9,a490-a4c6:e,a4d0-a60c:9,
  a60d-a60f:e,a610-a62b:9,a640-a66e:9,a66f-a672:d,a673:e,a674-a67d:d,a67e-a67f:e,a680-a69d:9,
  a69e-a69f:d,a6a0-a6ef:9,a6f0-a6f1:d,a6f2-a6f7:9,a700-a721:e,a722-a787:9,a788:e,a789-a7ca:9,
  a7d0-a7d1:9,a7d3:9,a7d5-a7d9:9,a7f2-a801:9,a802:d,a803-a805:9,a806:d,a807-a80a:9,a80b:d,
  a80c-a824:9,a825-a826:d,a827:9,a828-a82b:e,a82c:d,a830-a837:9,a838-a839:7,a840-a873:9,
  a874-a877:e,a880-a8c3:9,a8c4-a8c5:d,a8ce-a8d9:9,a8e0-a8f1:d,a8f2-a8fe:9,a8ff:d,a900-a925:9,
  a926-a92d:d,a92e-a946:9,a947-a951:d,a952-a953:9,a95f-a97c:9,a980-a982:d,a983-a9b2:9,a9b3:d,
  a9b4-a9b5:9,a9b6-a9b9:d,a9ba-a9bb:9,a9bc-a9bd:d,a9be-a9cd:9,a9cf-a9d9:9,a9de-a9e4:9,a9e5:d,
  a9e6-a9fe:9,aa00-aa28:9,aa29-aa2e:d,aa2f-aa30:9,aa31-aa32:d,aa33-aa34:9,aa35-aa36:d,aa40-aa42:9,
  aa43:d,aa44-aa4b:9,aa4c:d,aa4d:9,aa50-aa59:9,aa5c-aa7b:9,aa7c:d,aa7d-aaaf:9,aab0:d,aab1:9,
  aab2-aab4:d,aab5-aab6:9,aab7-aab8:d,aab9-aabd:9,aabe-aabf:d,aac0:9,aac1:d,aac2:9,aadb-aaeb:9,
  aaec-aaed:d,aaee-aaf5:9,aaf6:d,ab01-ab06:9,ab09-ab0e:9,ab11-ab16:9,ab20-ab26:9,ab28-ab2e:9,
  ab30-ab69:9,ab6a-ab6b:e,ab70-abe4:9,abe5:d,abe6-abe7:9,abe8:d,abe9-abec:9,abed:d,abf0-abf9:9,
  ac00-d7a3:9,d7b0-d7c6:9,d7cb-d7fb:9,d800-fa6d:9,fa70-fad9:9,fb00-fb06:9,fb13-fb17:9,fb1d:11,
  fb1e:d,fb1f-fb28:11,fb29:6,fb2a-fb36:11,fb38-fb3c:11,fb3e:11,fb40-fb41:11,fb43-fb44:11,
  fb46-fb4f:11,fb50-fbc2:0,fbd3-fd3d:0,fd3e-fd4f:e,fd50-fd8f:0,fd92-fdc7:0,fdcf:e,fdf0-fdfc:0,
  fdfd-fdff:e,fe00-fe0f:d,fe10-fe19:e,fe20-fe2f:d,fe30-fe4f:e,fe50:4,fe51:e,fe52:4,fe54:e,fe55:4,
  fe56-fe5e:e,fe5f:7,fe60-fe61:e,fe62-fe63:6,fe64-fe66:e,fe68:e,fe69-fe6a:7,fe6b:e,fe70-fe74:0,
  fe76-fefc:0,feff:3,ff01-ff02:e,ff03-ff05:7,ff06-ff0a:e,ff0b:6,ff0c:4,ff0d:6,ff0e-ff0f:4,
  ff10-ff19:5,ff1a:4,ff1b-ff20:e,ff21-ff3a:9,ff3b-ff40:e,ff41-ff5a:9,ff5b-ff65:e,ff66-ffbe:9,
  ffc2-ffc7:9,ffca-ffcf:9,ffd2-ffd7:9,ffda-ffdc:9,ffe0-ffe1:7,ffe2-ffe4:e,ffe5-ffe6:7,ffe8-ffee:e,
  fff9-fffd:e,10000-1000b:9,1000d-10026:9,10028-1003a:9,1003c-1003d:9,1003f-1004d:9,10050-1005d:9,
  10080-100fa:9,10100:9,10101:e,10102:9,10107-10133:9,10137-1013f:9,10140-1018c:e,1018d-1018e:9,
  10190-1019c:e,101a0:e,101d0-101fc:9,101fd:d,10280-1029c:9,102a0-102d0:9,102e0:d,102e1-102fb:5,
  10300-10323:9,1032d-1034a:9,10350-10375:9,10376-1037a:d,10380-1039d:9,1039f-103c3:9,
  103c8-103d5:9,10400-1049d:9,104a0-104a9:9,104b0-104d3:9,104d8-104fb:9,10500-10527:9,
  10530-10563:9,1056f-1057a:9,1057c-1058a:9,1058c-10592:9,10594-10595:9,10597-105a1:9,
  105a3-105b1:9,105b3-105b9:9,105bb-105bc:9,10600-10736:9,10740-10755:9,10760-10767:9,
  10780-10785:9,10787-107b0:9,107b2-107ba:9,10800-10805:11,10808:11,1080a-10835:11,10837-10838:11,
  1083c:11,1083f-10855:11,10857-1089e:11,108a7-108af:11,108e0-108f2:11,108f4-108f5:11,
  108fb-1091b:11,1091f:e,10920-10939:11,1093f:11,10980-109b7:11,109bc-109cf:11,109d2-10a00:11,
  10a01-10a03:d,10a05-10a06:d,10a0c-10a0f:d,10a10-10a13:11,10a15-10a17:11,10a19-10a35:11,
  10a38-10a3a:d,10a3f:d,10a40-10a48:11,10a50-10a58:11,10a60-10a9f:11,10ac0-10ae4:11,10ae5-10ae6:d,
  10aeb-10af6:11,10b00-10b35:11,10b39-10b3f:e,10b40-10b55:11,10b58-10b72:11,10b78-10b91:11,
  10b99-10b9c:11,10ba9-10baf:11,10c00-10c48:11,10c80-10cb2:11,10cc0-10cf2:11,10cfa-10cff:11,
  10d00-10d23:0,10d24-10d27:d,10d30-10d39:1,10e60-10e7e:1,10e80-10ea9:11,10eab-10eac:d,10ead:11,
  10eb0-10eb1:11,10f00-10f27:11,10f30-10f45:0,10f46-10f50:d,10f51-10f59:0,10f70-10f81:11,
  10f82-10f85:d,10f86-10f89:11,10fb0-10fcb:11,10fe0-10ff6:11,11000:9,11001:d,11002-11037:9,
  11038-11046:d,11047-1104d:9,11052-11065:e,11066-1106f:9,11070:d,11071-11072:9,11073-11074:d,
  11075:9,1107f-11081:d,11082-110b2:9,110b3-110b6:d,110b7-110b8:9,110b9-110ba:d,110bb-110c1:9,
  110c2:d,110cd:9,110d0-110e8:9,110f0-110f9:9,11100-11102:d,11103-11126:9,11127-1112b:d,1112c:9,
  1112d-11134:d,11136-11147:9,11150-11172:9,11173:d,11174-11176:9,11180-11181:d,11182-111b5:9,
  111b6-111be:d,111bf-111c8:9,111c9-111cc:d,111cd-111ce:9,111cf:d,111d0-111df:9,111e1-111f4:9,
  11200-11211:9,11213-1122e:9,1122f-11231:d,11232-11233:9,11234:d,11235:9,11236-11237:d,
  11238-1123d:9,1123e:d,11280-11286:9,11288:9,1128a-1128d:9,1128f-1129d:9,1129f-112a9:9,
  112b0-112de:9,112df:d,112e0-112e2:9,112e3-112ea:d,112f0-112f9:9,11300-11301:d,11302-11303:9,
  11305-1130c:9,1130f-11310:9,11313-11328:9,1132a-11330:9,11332-11333:9,11335-11339:9,
  1133b-1133c:d,1133d-1133f:9,11340:d,11341-11344:9,11347-11348:9,1134b-1134d:9,11350:9,11357:9,
  1135d-11363:9,11366-1136c:d,11370-11374:d,11400-11437:9,11438-1143f:d,11440-11441:9,
  11442-11444:d,11445:9,11446:d,11447-1145b:9,1145d:9,1145e:d,1145f-11461:9,11480-114b2:9,
  114b3-114b8:d,114b9:9,114ba:d,114bb-114be:9,114bf-114c0:d,114c1:9,114c2-114c3:d,114c4-114c7:9,
  114d0-114d9:9,11580-115b1:9,115b2-115b5:d,115b8-115bb:9,115bc-115bd:d,115be:9,115bf-115c0:d,
  115c1-115db:9,115dc-115dd:d,11600-11632:9,11633-1163a:d,1163b-1163c:9,1163d:d,1163e:9,
  1163f-11640:d,11641-11644:9,11650-11659:9,11660-1166c:e,11680-116aa:9,116ab:d,116ac:9,116ad:d,
  116ae-116af:9,116b0-116b5:d,116b6:9,116b7:d,116b8-116b9:9,116c0-116c9:9,11700-1171a:9,
  1171d-1171f:d,11720-11721:9,11722-11725:d,11726:9,11727-1172b:d,11730-11746:9,11800-1182e:9,
  1182f-11837:d,11838:9,11839-1183a:d,1183b:9,118a0-118f2:9,118ff-11906:9,11909:9,1190c-11913:9,
  11915-11916:9,11918-11935:9,11937-11938:9,1193b-1193c:d,1193d:9,1193e:d,1193f-11942:9,11943:d,
  11944-11946:9,11950-11959:9,119a0-119a7:9,119aa-119d3:9,119d4-119d7:d,119da-119db:d,
  119dc-119df:9,119e0:d,119e1-119e4:9,11a00:9,11a01-11a06:d,11a07-11a08:9,11a09-11a0a:d,
  11a0b-11a32:9,11a33-11a38:d,11a39-11a3a:9,11a3b-11a3e:d,11a3f-11a46:9,11a47:d,11a50:9,
  11a51-11a56:d,11a57-11a58:9,11a59-11a5b:d,11a5c-11a89:9,11a8a-11a96:d,11a97:9,11a98-11a99:d,
  11a9a-11aa2:9,11ab0-11af8:9,11c00-11c08:9,11c0a-11c2f:9,11c30-11c36:d,11c38-11c3d:d,
  11c3e-11c45:9,11c50-11c6c:9,11c70-11c8f:9,11c92-11ca7:d,11ca9:9,11caa-11cb0:d,11cb1:9,
  11cb2-11cb3:d,11cb4:9,11cb5-11cb6:d,11d00-11d06:9,11d08-11d09:9,11d0b-11d30:9,11d31-11d36:d,
  11d3a:d,11d3c-11d3d:d,11d3f-11d45:d,11d46:9,11d47:d,11d50-11d59:9,11d60-11d65:9,11d67-11d68:9,
  11d6a-11d8e:9,11d90-11d91:d,11d93-11d94:9,11d95:d,11d96:9,11d97:d,11d98:9,11da0-11da9:9,
  11ee0-11ef2:9,11ef3-11ef4:d,11ef5-11ef8:9,11fb0:9,11fc0-11fd4:9,11fd5-11fdc:e,11fdd-11fe0:7,
  11fe1-11ff1:e,11fff-12399:9,12400-1246e:9,12470-12474:9,12480-12543:9,12f90-12ff2:9,
  13000-1342e:9,13430-13438:9,14400-14646:9,16800-16a38:9,16a40-16a5e:9,16a60-16a69:9,
  16a6e-16abe:9,16ac0-16ac9:9,16ad0-16aed:9,16af0-16af4:d,16af5:9,16b00-16b2f:9,16b30-16b36:d,
  16b37-16b45:9,16b50-16b59:9,16b5b-16b61:9,16b63-16b77:9,16b7d-16b8f:9,16e40-16e9a:9,
  16f00-16f4a:9,16f4f:d,16f50-16f87:9,16f8f-16f92:d,16f93-16f9f:9,16fe0-16fe1:9,16fe2:e,16fe3:9,
  16fe4:d,16ff0-16ff1:9,17000-187f7:9,18800-18cd5:9,18d00-18d08:9,1aff0-1aff3:9,1aff5-1affb:9,
  1affd-1affe:9,1b000-1b122:9,1b150-1b152:9,1b164-1b167:9,1b170-1b2fb:9,1bc00-1bc6a:9,
  1bc70-1bc7c:9,1bc80-1bc88:9,1bc90-1bc99:9,1bc9c:9,1bc9d-1bc9e:d,1bc9f:9,1bca0-1bca3:3,
  1cf00-1cf2d:d,1cf30-1cf46:d,1cf50-1cfc3:9,1d000-1d0f5:9,1d100-1d126:9,1d129-1d166:9,
  1d167-1d169:d,1d16a-1d172:9,1d173-1d17a:3,1d17b-1d182:d,1d183-1d184:9,1d185-1d18b:d,
  1d18c-1d1a9:9,1d1aa-1d1ad:d,1d1ae-1d1e8:9,1d1e9-1d1ea:e,1d200-1d241:e,1d242-1d244:d,1d245:e,
  1d2e0-1d2f3:9,1d300-1d356:e,1d360-1d378:9,1d400-1d454:9,1d456-1d49c:9,1d49e-1d49f:9,1d4a2:9,
  1d4a5-1d4a6:9,1d4a9-1d4ac:9,1d4ae-1d4b9:9,1d4bb:9,1d4bd-1d4c3:9,1d4c5-1d505:9,1d507-1d50a:9,
  1d50d-1d514:9,1d516-1d51c:9,1d51e-1d539:9,1d53b-1d53e:9,1d540-1d544:9,1d546:9,1d54a-1d550:9,
  1d552-1d6a5:9,1d6a8-1d6da:9,1d6db:e,1d6dc-1d714:9,1d715:e,1d716-1d74e:9,1d74f:e,1d750-1d788:9,
  1d789:e,1d78a-1d7c2:9,1d7c3:e,1d7c4-1d7cb:9,1d7ce-1d7ff:5,1d800-1d9ff:9,1da00-1da36:d,
  1da37-1da3a:9,1da3b-1da6c:d,1da6d-1da74:9,1da75:d,1da76-1da83:9,1da84:d,1da85-1da8b:9,
  1da9b-1da9f:d,1daa1-1daaf:d,1df00-1df1e:9,1e000-1e006:d,1e008-1e018:d,1e01b-1e021:d,
  1e023-1e024:d,1e026-1e02a:d,1e100-1e12c:9,1e130-1e136:d,1e137-1e13d:9,1e140-1e149:9,
  1e14e-1e14f:9,1e290-1e2ad:9,1e2ae:d,1e2c0-1e2eb:9,1e2ec-1e2ef:d,1e2f0-1e2f9:9,1e2ff:7,
  1e7e0-1e7e6:9,1e7e8-1e7eb:9,1e7ed-1e7ee:9,1e7f0-1e7fe:9,1e800-1e8c4:11,1e8c7-1e8cf:11,
  1e8d0-1e8d6:d,1e900-1e943:11,1e944-1e94a:d,1e94b:11,1e950-1e959:11,1e95e-1e95f:11,1ec71-1ecb4:0,
  1ed01-1ed3d:0,1ee00-1ee03:0,1ee05-1ee1f:0,1ee21-1ee22:0,1ee24:0,1ee27:0,1ee29-1ee32:0,
  1ee34-1ee37:0,1ee39:0,1ee3b:0,1ee42:0,1ee47:0,1ee49:0,1ee4b:0,1ee4d-1ee4f:0,1ee51-1ee52:0,
  1ee54:0,1ee57:0,1ee59:0,1ee5b:0,1ee5d:0,1ee5f:0,1ee61-1ee62:0,1ee64:0,1ee67-1ee6a:0,
  1ee6c-1ee72:0,1ee74-1ee77:0,1ee79-1ee7c:0,1ee7e:0,1ee80-1ee89:0,1ee8b-1ee9b:0,1eea1-1eea3:0,
  1eea5-1eea9:0,1eeab-1eebb:0,1eef0-1eef1:e,1f000-1f02b:e,1f030-1f093:e,1f0a0-1f0ae:e,
  1f0b1-1f0bf:e,1f0c1-1f0cf:e,1f0d1-1f0f5:e,1f100-1f10a:5,1f10b-1f10f:e,1f110-1f12e:9,1f12f:e,
  1f130-1f169:9,1f16a-1f16f:e,1f170-1f1ac:9,1f1ad:e,1f1e6-1f202:9,1f210-1f23b:9,1f240-1f248:9,
  1f250-1f251:9,1f260-1f265:e,1f300-1f6d7:e,1f6dd-1f6ec:e,1f6f0-1f6fc:e,1f700-1f773:e,
  1f780-1f7d8:e,1f7e0-1f7eb:e,1f7f0:e,1f800-1f80b:e,1f810-1f847:e,1f850-1f859:e,1f860-1f887:e,
  1f890-1f8ad:e,1f8b0-1f8b1:e,1f900-1fa53:e,1fa60-1fa6d:e,1fa70-1fa74:e,1fa78-1fa7c:e,
  1fa80-1fa86:e,1fa90-1faac:e,1fab0-1faba:e,1fac0-1fac5:e,1fad0-1fad9:e,1fae0-1fae7:e,
  1faf0-1faf6:e,1fb00-1fb92:e,1fb94-1fbca:e,1fbf0-1fbf9:5,20000-2a6df:9,2a700-2b738:9,
  2b740-2b81d:9,2b820-2cea1:9,2ceb0-2ebe0:9,2f800-2fa1d:9,30000-3134a:9,e0001:3,e0020-e007f:3,
  e0100-e01ef:d,f0000-ffffd:9,100000-10fffd:9"

/-- The bidirectional class of a character; none for an unassigned one. -/
def bidiClass? (c : Nat) : Option String :=
  match bidiClasses.find? c with
  | some i => bidiClassNames[i]?
  | none => none

/-- The marks. -/
def markRanges : CodeRanges := readCodeRanges
  "300-36f,483-489,591-5bd,5bf,5c1-5c2,5c4-5c5,5c7,610-61a,64b-65f,670,6d6-6dc,6df-6e4,6e7-6e8,
  6ea-6ed,711,730-74a,7a6-7b0,7eb-7f3,7fd,816-819,81b-823,825-827,829-82d,859-85b,898-89f,8ca-8e1,
  8e3-903,93a-93c,93e-94f,951-957,962-963,981-983,9bc,9be-9c4,9c7-9c8,9cb-9cd,9d7,9e2-9e3,9fe,
  a01-a03,a3c,a3e-a42,a47-a48,a4b-a4d,a51,a70-a71,a75,a81-a83,abc,abe-ac5,ac7-ac9,acb-acd,ae2-ae3,
  afa-aff,b01-b03,b3c,b3e-b44,b47-b48,b4b-b4d,b55-b57,b62-b63,b82,bbe-bc2,bc6-bc8,bca-bcd,bd7,
  c00-c04,c3c,c3e-c44,c46-c48,c4a-c4d,c55-c56,c62-c63,c81-c83,cbc,cbe-cc4,cc6-cc8,cca-ccd,cd5-cd6,
  ce2-ce3,d00-d03,d3b-d3c,d3e-d44,d46-d48,d4a-d4d,d57,d62-d63,d81-d83,dca,dcf-dd4,dd6,dd8-ddf,
  df2-df3,e31,e34-e3a,e47-e4e,eb1,eb4-ebc,ec8-ecd,f18-f19,f35,f37,f39,f3e-f3f,f71-f84,f86-f87,
  f8d-f97,f99-fbc,fc6,102b-103e,1056-1059,105e-1060,1062-1064,1067-106d,1071-1074,1082-108d,108f,
  109a-109d,135d-135f,1712-1715,1732-1734,1752-1753,1772-1773,17b4-17d3,17dd,180b-180d,180f,
  1885-1886,18a9,1920-192b,1930-193b,1a17-1a1b,1a55-1a5e,1a60-1a7c,1a7f,1ab0-1ace,1b00-1b04,
  1b34-1b44,1b6b-1b73,1b80-1b82,1ba1-1bad,1be6-1bf3,1c24-1c37,1cd0-1cd2,1cd4-1ce8,1ced,1cf4,
  1cf7-1cf9,1dc0-1dff,20d0-20f0,2cef-2cf1,2d7f,2de0-2dff,302a-302f,3099-309a,a66f-a672,a674-a67d,
  a69e-a69f,a6f0-a6f1,a802,a806,a80b,a823-a827,a82c,a880-a881,a8b4-a8c5,a8e0-a8f1,a8ff,a926-a92d,
  a947-a953,a980-a983,a9b3-a9c0,a9e5,aa29-aa36,aa43,aa4c-aa4d,aa7b-aa7d,aab0,aab2-aab4,aab7-aab8,
  aabe-aabf,aac1,aaeb-aaef,aaf5-aaf6,abe3-abea,abec-abed,fb1e,fe00-fe0f,fe20-fe2f,101fd,102e0,
  10376-1037a,10a01-10a03,10a05-10a06,10a0c-10a0f,10a38-10a3a,10a3f,10ae5-10ae6,10d24-10d27,
  10eab-10eac,10f46-10f50,10f82-10f85,11000-11002,11038-11046,11070,11073-11074,1107f-11082,
  110b0-110ba,110c2,11100-11102,11127-11134,11145-11146,11173,11180-11182,111b3-111c0,111c9-111cc,
  111ce-111cf,1122c-11237,1123e,112df-112ea,11300-11303,1133b-1133c,1133e-11344,11347-11348,
  1134b-1134d,11357,11362-11363,11366-1136c,11370-11374,11435-11446,1145e,114b0-114c3,115af-115b5,
  115b8-115c0,115dc-115dd,11630-11640,116ab-116b7,1171d-1172b,1182c-1183a,11930-11935,11937-11938,
  1193b-1193e,11940,11942-11943,119d1-119d7,119da-119e0,119e4,11a01-11a0a,11a33-11a39,11a3b-11a3e,
  11a47,11a51-11a5b,11a8a-11a99,11c2f-11c36,11c38-11c3f,11c92-11ca7,11ca9-11cb6,11d31-11d36,11d3a,
  11d3c-11d3d,11d3f-11d45,11d47,11d8a-11d8e,11d90-11d91,11d93-11d97,11ef3-11ef6,16af0-16af4,
  16b30-16b36,16f4f,16f51-16f87,16f8f-16f92,16fe4,16ff0-16ff1,1bc9d-1bc9e,1cf00-1cf2d,1cf30-1cf46,
  1d165-1d169,1d16d-1d172,1d17b-1d182,1d185-1d18b,1d1aa-1d1ad,1d242-1d244,1da00-1da36,1da3b-1da6c,
  1da75,1da84,1da9b-1da9f,1daa1-1daaf,1e000-1e006,1e008-1e018,1e01b-1e021,1e023-1e024,1e026-1e02a,
  1e130-1e136,1e2ae,1e2ec-1e2ef,1e8d0-1e8d6,1e944-1e94a,e0100-e01ef"

end ConnectedHome.Text
